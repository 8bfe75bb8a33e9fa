-- SUMMARY: Portions of a YAML document, decoded from blocks of bytes.
import Ripple.Fault
import Ripple.Text.Encoding

/-! # Sources of documents

A document is read from its file in portions of characters, and these are decoded from blocks of
bytes. A portion with bytes that are no text, or with characters that no document may have, is a
fault, but only for a reader that gets so far.
-/

namespace Ripple.Yaml

/-- The text of a document as far as it can be read. -/
structure Source where
  text : List Char
  /-- The fault behind the text, if it is not the whole document. -/
  fault : Option Fault := none

namespace Source

/-- How many characters are read at once. -/
def portionSize : Nat := 4096

/-- The least number of bytes that are decoded at once. -/
def blockSize : Nat := 8192

/-- A file that is read from its beginning. -/
structure Intake where
  bytes : Bytes
  /-- The character that the end of the last block has cut. -/
  cut : Option Utf8.Partial := none
  /-- Whether the last block ended with a carriage return, which may belong to a line feed. -/
  held : Bool := false
  /-- The characters that are decoded and not read. -/
  ready : List Char := []
  /-- How many bytes and characters the last block had. -/
  last : Nat × Nat := (0, 0)

/-- How many bytes the next block has for a reader that waits for so many characters: as many as
they take if they are like those of the last block. -/
def Intake.nextSize (intake : Intake) (wanted : Nat) : Nat :=
  let (bytes, characters) := intake.last
  max blockSize (if characters < bytes then bytes * wanted / max 1 characters else wanted)

/-- Decodes the next block; `none` if it is no text. At the end of the file there must be no
character that is cut. -/
def Intake.decodeBlock? (intake : Intake) (wanted : Nat) : Option Intake := do
  let block := intake.bytes.take (intake.nextSize wanted)
  let (pieces, cut) := Utf8.piecesFrom intake.cut block
  let decoded ← pieces.mapM id
  if block.isEmpty && cut.isSome then none
  else
    let text := if intake.held && (block.isEmpty || !decoded.isEmpty) then '\r' :: decoded else decoded
    let held :=
      !block.isEmpty && (text.getLast? == some '\r' || (intake.held && decoded.isEmpty))
    let shown := Text.plainLineEnds (if held && !decoded.isEmpty then text.dropLast else text)
    some
      { bytes := intake.bytes.drop block.length, cut, held, ready := intake.ready ++ shown,
        last := (block.length, shown.length) }

/-- The next portion; `none` if one of its blocks is no text. Only at the end of the file it is not
full. `fuel` is more than the bytes that are left. -/
def Intake.portion? : Nat → Intake → Option (List Char × Intake)
  | 0, intake => some (intake.ready, { intake with ready := [] })
  | fuel + 1, intake =>
    if portionSize ≤ intake.ready.length then
      some (intake.ready.take portionSize, { intake with ready := intake.ready.drop portionSize })
    else
      match intake.decodeBlock? (portionSize - intake.ready.length) with
      | none => none
      | some next =>
        if intake.bytes.isEmpty then some (next.ready, { next with ready := [] })
        else portion? fuel next

/-- Characters that a document may have. -/
def isPrintable (c : Char) : Bool :=
  let n := c.toNat
  n == 9 || n == 10 || n == 13 || (32 ≤ n && n ≤ 126) || n == 0x85 ||
    (0xA0 ≤ n && n != 0xFFFE && n != 0xFFFF)

/-- The text that is left, one portion at a time. -/
def rest : Nat → Intake → Source
  | 0, _ => { text := [] }
  | fuel + 1, intake =>
    match intake.portion? (intake.bytes.length + 1) with
    | none => { text := [], fault := some .undecodable }
    | some ([], _) => { text := [] }
    | some (portion, intake) =>
      if !portion.all isPrintable then { text := [], fault := some .malformedDocument }
      else
        let later := rest fuel intake
        { later with text := portion ++ later.text }

/-- The source of a document. The first two portions are read together. -/
def ofBytes (bytes : Bytes) : Source :=
  let first? : Option (List Char × Intake) := do
    let (first, intake) ← Intake.portion? (bytes.length + 1) { bytes }
    let (second, intake) ← intake.portion? (intake.bytes.length + 1)
    some (first ++ second, intake)
  match first? with
  | none => { text := [], fault := some .undecodable }
  | some (portion, intake) =>
    if !portion.all isPrintable then { text := [], fault := some .malformedDocument }
    else
      let later := rest (intake.bytes.length + intake.ready.length + 1) intake
      { later with text := portion ++ later.text }

end Source

end Ripple.Yaml
