-- SUMMARY: Cursors in the text of a YAML document, with the faults that reading on can meet.
import Ripple.Yaml.Source

/-! # Cursors

A place in the text of a document, and the steps of reading from there. Whoever looks at a character
behind the readable text meets the fault that is there. A step over some characters always looks at
the character behind them.
-/

namespace Ripple.Yaml

def isBreak (c : Char) : Bool :=
  c == '\n' || c == '\r' || c == '\x85' || c == '\u2028' || c == '\u2029'

def isGap (c : Char) : Bool :=
  c == ' ' || c == '\t' || isBreak c

/-- The text that is left, and where in the document it begins. -/
structure Cursor where
  rest : List Char
  /-- The fault behind the text. -/
  fault : Option Fault := none
  index : Nat := 0
  line : Nat := 0
  column : Nat := 0
  /-- The length of the whole text. -/
  size : Nat

namespace Cursor

def ofSource (source : Source) : Cursor :=
  { rest := source.text, fault := source.fault, size := source.text.length }

/-- Behind the next character. A byte order mark takes no column. -/
def next (cursor : Cursor) : Cursor :=
  match cursor.rest with
  | [] => cursor
  | c :: rest =>
    if isBreak c then { cursor with rest, index := cursor.index + 1, line := cursor.line + 1, column := 0 }
    else
      let column := if c == '\ufeff' then cursor.column else cursor.column + 1
      { cursor with rest, index := cursor.index + 1, column }

def advance : Nat → Cursor → Cursor
  | 0, cursor => cursor
  | n + 1, cursor => advance n cursor.next

end Cursor

/-- A step of reading. -/
abbrev Scan (α : Type) := StateT Cursor (Except Fault) α

namespace Scan

/-- Refuses the document. -/
def fail : Scan α :=
  throw .malformedDocument

/-- The character so many places on; `none` behind the end of the document. -/
def peekAt (n : Nat) : Scan (Option Char) := do
  let cursor ← get
  match cursor.rest[n]?, cursor.fault with
  | some c, _ => return some c
  | none, some fault => throw fault
  | none, none => return none

def peek : Scan (Option Char) :=
  peekAt 0

/-- Whether the next character is one of these. -/
def isAt (p : Char → Bool) : Scan Bool :=
  return (← peek).any p

/-- Whether the document ends here or the next character is one of these. -/
def isAtOrEnd (p : Char → Bool) : Scan Bool :=
  return (← peek).all p

/-- Goes on unless the document ends here or the next character is one of these. -/
def expectEnd (p : Char → Bool) : Scan Unit := do
  if !(← isAtOrEnd p) then fail

def advance (n : Nat) : Scan Unit := do
  discard (peekAt n)
  modify (·.advance n)

/-- Takes the longest run of such characters. -/
def takeWhile (p : Char → Bool) : Scan (List Char) := do
  let run := (← get).rest.takeWhile p
  advance run.length
  return run

def dropWhile (p : Char → Bool) : Scan Unit :=
  discard (takeWhile p)

def column : Scan Nat :=
  return (← get).column

/-- A bound for the steps that are left, each of which takes a character. -/
def bound : Scan Nat :=
  return (← get).size + 1

/-- Takes a line break, if there is one, as it counts in a text. -/
def lineBreak : Scan (List Char) := do
  match ← peek with
  | some c =>
    if !isBreak c then return []
    else
      advance 1
      return if c == '\u2028' || c == '\u2029' then [c] else ['\n']
  | none => return []

/-- Whether three such characters stand here for themselves. -/
def isAtMarker (c : Char) : Scan Bool := do
  discard (peekAt 2)
  if (← get).rest.take 3 == [c, c, c] then return (← peekAt 3).all isGap else return false

def isAtAnyMarker : Scan Bool := do
  if ← isAtMarker '-' then return true else isAtMarker '.'

/-- Skips spaces and a comment behind them. -/
def skipComment : Scan Unit := do
  dropWhile (· == ' ')
  if ← isAt (· == '#') then dropWhile (!isBreak ·)

/-- Takes the rest of a line that holds at most a comment. -/
def emptyLine : Scan Unit := do
  skipComment
  expectEnd isBreak
  discard lineBreak

end Scan

end Ripple.Yaml
