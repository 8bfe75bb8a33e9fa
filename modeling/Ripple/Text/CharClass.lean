-- SUMMARY: Classes of characters for all scripts, looked up in the tables.
import Ripple.Text.LetterTable
import Ripple.Text.MarkTable
import Ripple.Text.LetterCaseTable
import Ripple.Text.PrintableTable

/-! # Character classes

Letters, digits, identifier characters, word characters, letter case and printability, for all
scripts.
-/

namespace Ripple.Text

/-- Membership in a list of inclusive ranges. -/
def inRanges (ranges : List (Nat × Nat)) (n : Nat) : Bool :=
  ranges.any fun (first, last) => first ≤ n && n ≤ last

/-- Membership in a list of runs `(first, last, step)`. -/
def inRuns (runs : List (Nat × Nat × Nat)) (n : Nat) : Bool :=
  runs.any fun (first, last, step) => first ≤ n && n ≤ last && (n - first) % step == 0

def isLetter (c : Char) : Bool :=
  let n := c.toNat
  if n < 128 then c.isAlpha else if n < 0x3000 then inRanges lowLetters n else inRanges highLetters n

/-- The value of a decimal digit of any script. -/
def digitValue? (c : Char) : Option Nat :=
  let n := c.toNat
  if n < 128 then if c.isDigit then some (n - 48) else none
  else (decimalZeros.find? fun z => z ≤ n && n < z + 10).map (n - ·)

def isDecimalDigit (c : Char) : Bool :=
  (digitValue? c).isSome

/-- Characters that belong to a word: letters, numbers and the underscore. -/
def isWordChar (c : Char) : Bool :=
  let n := c.toNat
  if n < 128 then c.isAlphanum || c == '_'
  else isLetter c || isDecimalDigit c || inRanges otherNumberRanges n

/-- Characters that may begin an identifier: letters, letter numbers, connectors and currency
signs. -/
def isIdentifierStart (c : Char) : Bool :=
  let n := c.toNat
  if n < 128 then c.isAlpha || c == '_' || c == '$'
  else isLetter c || inRanges letterNumberRanges n || inRanges connectorRanges n ||
    inRanges currencyRanges n

/-- Characters that may continue an identifier: those that may begin one, marks and digits. -/
def isIdentifierPart (c : Char) : Bool :=
  isIdentifierStart c || isDecimalDigit c || inRanges markRanges c.toNat

def isUpperCase (c : Char) : Bool :=
  if c.toNat < 128 then c.isUpper else inRuns upperRuns c.toNat

def isLowerCase (c : Char) : Bool :=
  if c.toNat < 128 then c.isLower else inRuns lowerRuns c.toNat

/-- Characters that a quoted text shows as they are. -/
def isPrintable (c : Char) : Bool :=
  let n := c.toNat
  if n < 128 then 32 ≤ n && n < 127
  else if n < 0x2000 then !inRanges lowUnprintable n
  else !inRanges highUnprintable n && !inRanges lowUnprintable n

end Ripple.Text
