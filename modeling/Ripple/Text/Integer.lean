-- SUMMARY: Integers read from texts, with digits of any script.
import Ripple.Text.Blank
import Ripple.Text.CharClass

/-! # Reading integers

An integer is written with digits of any script, single underscores between digits, an optional
sign and blanks around it.
-/

namespace Ripple.Text

/-- Integers with more decimal digits than this are refused. -/
def maxIntegerDigits : Nat := 4300

/-- The value of a digit in bases up to sixteen. -/
def digitIn? (base : Nat) (c : Char) : Option Nat :=
  let value? :=
    match digitValue? c with
    | some d => some d
    | none =>
      if 'a' ≤ c && c ≤ 'f' then some (c.toNat - 87)
      else if 'A' ≤ c && c ≤ 'F' then some (c.toNat - 55)
      else none
  value?.filter (· < base)

/-- Reads a run of digits in which an underscore stands only between two digits. -/
def readDigits? (base : Nat) (s : List Char) : Option Nat :=
  (splitWhen (· == '_') s).foldlM (fun value group =>
    if group.isEmpty then none
    else group.foldlM (fun value c => (digitIn? base c).map (value * base + ·)) value) 0

/-- Reads a sign, if there is one, and passes the rest on. -/
def readSigned? (read : List Char → Option Nat) : List Char → Option Int
  | '+' :: s => (read s).map Int.ofNat
  | '-' :: s => (read s).map fun n => -Int.ofNat n
  | s => (read s).map Int.ofNat

/-- Reads a decimal integer. -/
def readInteger? (s : List Char) : Option Int :=
  let s := trim s
  if maxIntegerDigits < (s.filter isDecimalDigit).length then none
  else readSigned? (readDigits? 10) s

/-- Reads a decimal integer in which only the digits and blanks of ASCII count. -/
def readPlainInteger? (s : List Char) : Option Int :=
  if s.all fun c => c.toNat < 128 && !(28 ≤ c.toNat && c.toNat < 32) then readInteger? s else none

/-- Reads an integer in another base, with or without its mark, which is a zero and a letter. -/
def readInBase? (base : Nat) (letter : Char) (s : List Char) : Option Int :=
  let isMark (zero x : Char) : Bool := digitValue? zero == some 0 && x.toLower == letter
  readSigned? (fun
    | zero :: x :: '_' :: s =>
      if isMark zero x then readDigits? base s else readDigits? base (zero :: x :: '_' :: s)
    | zero :: x :: s => if isMark zero x then readDigits? base s else readDigits? base (zero :: x :: s)
    | s => readDigits? base s) (trim s)

/-- Reads a hexadecimal integer. -/
def readHexadecimal? (s : List Char) : Option Int :=
  readInBase? 16 'x' s

end Ripple.Text
