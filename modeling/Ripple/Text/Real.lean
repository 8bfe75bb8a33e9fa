-- SUMMARY: Floating-point numbers read from texts.
import Ripple.Number.Binary64
import Ripple.Text.Integer

/-! # Reading floating-point numbers

A number is written with digits of any script, an optional sign, point and exponent, and blanks
around it. Infinity and the number that is none are written as words.
-/

namespace Ripple.Text

/-- The value of a run of digits. -/
def digitsValue (digits : List Nat) : Nat :=
  digits.foldl (fun n d => n * 10 + d) 0

/-- The digits at the front of a text, and the rest. -/
def spanDigits : List Char → List Nat × List Char
  | [] => ([], [])
  | c :: rest =>
    match digitValue? c with
    | some d => let (digits, rest) := spanDigits rest; (d :: digits, rest)
    | none => ([], c :: rest)

/-- Reads what is behind the digits: nothing, or an exponent. -/
def readExponent? : List Char → Option Int
  | [] => some 0
  | e :: rest =>
    if e != 'e' && e != 'E' then none
    else
      readSigned? (fun rest =>
        match spanDigits rest with
        | ([], _) => none
        | (digits, []) => some (digitsValue digits)
        | _ => none) rest

/-- Reads a number without a sign. -/
def readUnsignedReal? (s : List Char) : Option Binary64 :=
  let word := String.ofList (s.map Char.toLower)
  if word == "inf" || word == "infinity" then some (.infinite false)
  else if word == "nan" then some .nan
  else
    let (whole, rest) := spanDigits s
    let (fraction, rest) := match rest with
      | '.' :: rest => spanDigits rest
      | rest => ([], rest)
    if whole.isEmpty && fraction.isEmpty then none
    else
      (readExponent? rest).map fun exponent =>
        .ofDecimal false (digitsValue (whole ++ fraction)) (exponent - fraction.length)

/-- Reads a floating-point number. -/
def readReal? (s : List Char) : Option Binary64 :=
  match trim s with
  | '+' :: s => readUnsignedReal? s
  | '-' :: s => (readUnsignedReal? s).map Binary64.negate
  | s => readUnsignedReal? s

end Ripple.Text
