-- SUMMARY: The reader of JSON texts, with two kinds of errors.
import Ripple.Json.Basic
import Ripple.Text.Integer

/-! # Reading JSON

Beyond the standard, the words `NaN`, `Infinity` and `-Infinity` are numbers. Of equal keys in an
object the last one counts, at the place of the first. A surrogate without a partner is kept in a
string, and replaced in a key.
-/

namespace Ripple.Json

/-- Why a text is refused. -/
inductive ReadError where
  | malformed
  | longInteger
deriving DecidableEq, Repr

def isSpace (c : Char) : Bool :=
  c == ' ' || c == '\t' || c == '\n' || c == '\r'

def skipSpaces (s : List Char) : List Char :=
  s.dropWhile isSpace

/-- The value of four hexadecimal digits. -/
def hexUnit? (a b c d : Char) : Option Nat :=
  let digit (c : Char) : Option Nat :=
    if c.isDigit then some (c.toNat - 48)
    else if 'a' ≤ c && c ≤ 'f' then some (c.toNat - 87)
    else if 'A' ≤ c && c ≤ 'F' then some (c.toNat - 55)
    else none
  [a, b, c, d].foldlM (fun value c => (digit c).map (value * 16 + ·)) 0

/-- The character that a one-letter escape stands for. -/
def escapedChar? : Char → Option Char
  | '"' => some '"'
  | '\\' => some '\\'
  | '/' => some '/'
  | 'b' => some '\x08'
  | 'f' => some '\x0c'
  | 'n' => some '\n'
  | 'r' => some '\r'
  | 't' => some '\t'
  | _ => none

/-- Reads the rest of a string after its opening quote as code points. Surrogates are paired up
where they can be. -/
def readString : List Char → Except ReadError (List Nat × List Char)
  | [] => .error .malformed
  | '"' :: s => .ok ([], s)
  | '\\' :: 'u' :: a :: b :: c :: d :: '\\' :: 'u' :: e :: f :: g :: h :: s =>
    match hexUnit? a b c d with
    | none => .error .malformed
    | some high =>
      match hexUnit? e f g h with
      | some low =>
        if 0xD800 ≤ high && high ≤ 0xDBFF && 0xDC00 ≤ low && low ≤ 0xDFFF then
          (readString s).map fun (t, r) =>
            ((0x10000 + (high - 0xD800) * 0x400 + (low - 0xDC00)) :: t, r)
        else (readString ('\\' :: 'u' :: e :: f :: g :: h :: s)).map fun (t, r) => (high :: t, r)
      | none => .error .malformed
  | '\\' :: 'u' :: a :: b :: c :: d :: s =>
    match hexUnit? a b c d with
    | none => .error .malformed
    | some unit => (readString s).map fun (t, r) => (unit :: t, r)
  | '\\' :: c :: s =>
    match escapedChar? c with
    | none => .error .malformed
    | some x => (readString s).map fun (t, r) => (x.toNat :: t, r)
  | c :: s => if c.toNat < 32 || c == '\\' then .error .malformed else
      (readString s).map fun (t, r) => (c.toNat :: t, r)
termination_by s => s.length

/-- The digits at the front of a text. -/
def spanDigits (s : List Char) : List Char × List Char :=
  (s.takeWhile Char.isDigit, s.dropWhile Char.isDigit)

def digitsValue (ds : List Char) : Nat :=
  ds.foldl (fun n c => n * 10 + (c.toNat - 48)) 0

/-- Reads an exponent, if a whole one stands here. -/
def readExponent (s : List Char) : Option Int × List Char :=
  match s with
  | c :: rest =>
    if c == 'e' || c == 'E' then
      let (negative, rest) := match rest with
        | '-' :: r => (true, r)
        | '+' :: r => (false, r)
        | r => (false, r)
      match spanDigits rest with
      | ([], _) => (none, s)
      | (ds, r) => (some (if negative then -digitsValue ds else digitsValue ds), r)
    else (none, s)
  | [] => (none, s)

/-- Reads a fraction, if a whole one stands here. -/
def readFraction (s : List Char) : List Char × List Char :=
  match s with
  | '.' :: rest =>
    match spanDigits rest with
    | ([], _) => ([], s)
    | (ds, r) => (ds, r)
  | _ => ([], s)

/-- The whole part of a number at the front of a text. A zero stands alone. -/
def spanWhole : List Char → List Char × List Char
  | '0' :: r => (['0'], r)
  | s => spanDigits s

/-- Reads a number after its sign. -/
def readNumber (negative : Bool) (s : List Char) : Except ReadError (Json × List Char) :=
  let (whole, rest) := spanWhole s
  if whole.isEmpty then .error .malformed
  else
    let (fraction, rest) := readFraction rest
    let (exponent?, rest) := readExponent rest
    if fraction.isEmpty && exponent?.isNone then
      if Text.maxIntegerDigits < whole.length then .error .longInteger
      else
        let n := digitsValue whole
        .ok (.int (if negative then -n else n), rest)
    else
      let exponent := exponent?.getD 0 - fraction.length
      .ok (.real (.ofDecimal negative (digitsValue (whole ++ fraction)) exponent), rest)

/-- Takes a given text off the front. -/
def dropText? : List Char → List Char → Option (List Char)
  | [], s => some s
  | _ :: _, [] => none
  | a :: w, c :: s => if a == c then dropText? w s else none

/-- The values that are written as words. -/
def wordValues : List (List Char × Json) :=
  [("null".toList, .null), ("true".toList, .bool true), ("false".toList, .bool false),
    ("NaN".toList, .real .nan), ("Infinity".toList, .real (.infinite false)),
    ("-Infinity".toList, .real (.infinite true))]

/-- Reads a word or a number. -/
def readScalar (s : List Char) : Except ReadError (Json × List Char) :=
  match wordValues.findSome? fun (word, value) => (dropText? word s).map (value, ·) with
  | some found => .ok found
  | none =>
    match s with
    | '-' :: rest => readNumber true rest
    | s => readNumber false s

mutual

/-- Reads a value; `fuel` bounds the number of steps and is at least the length of the text. -/
def readValue : Nat → List Char → Except ReadError (Json × List Char)
  | 0, _ => .error .malformed
  | fuel + 1, s =>
    match s with
    | '"' :: rest => (readString rest).map fun (codes, r) => (ofCodes codes, r)
    | '[' :: rest =>
      match skipSpaces rest with
      | ']' :: r => .ok (.arr [], r)
      | r => (readItems fuel r).map fun (items, r) => (.arr items, r)
    | '\x7b' :: rest =>
      match skipSpaces rest with
      | '\x7d' :: r => .ok (.obj [], r)
      | r => (readFields fuel [] r).map fun (fields, r) => (.obj fields, r)
    | s => readScalar s

/-- Reads the items of an array up to its closing bracket. -/
def readItems : Nat → List Char → Except ReadError (List Json × List Char)
  | 0, _ => .error .malformed
  | fuel + 1, s => do
    let (item, rest) ← readValue fuel s
    match skipSpaces rest with
    | ',' :: r => (readItems fuel (skipSpaces r)).map fun (items, r) => (item :: items, r)
    | ']' :: r => .ok ([item], r)
    | _ => .error .malformed

/-- Reads the fields of an object up to its closing brace. -/
def readFields : Nat → List (String × Json) → List Char →
    Except ReadError (List (String × Json) × List Char)
  | 0, _, _ => .error .malformed
  | fuel + 1, fields, s =>
    match s with
    | '"' :: rest => do
      let (key, rest) ← readString rest
      match skipSpaces rest with
      | ':' :: rest => do
        let (value, rest) ← readValue fuel (skipSpaces rest)
        let fields := putField (lossyText key) value fields
        match skipSpaces rest with
        | ',' :: r => readFields fuel fields (skipSpaces r)
        | '\x7d' :: r => .ok (fields, r)
        | _ => .error .malformed
      | _ => .error .malformed
    | _ => .error .malformed

end

/-- Reads a text that holds one value. -/
def read (s : List Char) : Except ReadError Json := do
  let (value, rest) ← readValue (s.length + 1) (skipSpaces s)
  if (skipSpaces rest).isEmpty then .ok value else .error .malformed

end Ripple.Json
