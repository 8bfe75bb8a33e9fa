-- SUMMARY: Characters, names and references of XML.
import Ripple.Xml.NameTable

/-! # Characters, names and references -/

namespace Ripple.Xml

/-- Why a document is refused. -/
inductive XmlError where
  | malformed
  /-- The name of its encoding means nothing. -/
  | unknownEncoding
  /-- Its encoding takes several bytes for a character and is not supported. -/
  | unsupportedEncoding
  /-- Its encoding is only for the names of hosts, or refuses all bytes. -/
  | unreadableEncoding
  /-- Its encoding has no characters for single bytes. -/
  | undecodable
deriving DecidableEq, Repr

def isSpace (c : Char) : Bool :=
  c == ' ' || c == '\t' || c == '\n' || c == '\r'

/-- Characters that a document may contain. -/
def isChar (c : Char) : Bool :=
  let n := c.toNat
  if n < 32 then n == 9 || n == 10 || n == 13 else n != 0xFFFE && n != 0xFFFF

def inRanges (ranges : List (Nat × Nat)) (n : Nat) : Bool :=
  ranges.any fun (first, last) => first ≤ n && n ≤ last

def isNameStart (c : Char) : Bool :=
  if c.toNat < 128 then c.isAlpha || c == '_' else inRanges nameStartRanges c.toNat

def isNameChar (c : Char) : Bool :=
  if c.toNat < 128 then c.isAlphanum || c == '_' || c == '-' || c == '.'
  else isNameStart c || inRanges nameRestRanges c.toNat

/-- A name without colons at the front of a text. -/
def plainName? : List Char → Option (List Char × List Char)
  | [] => none
  | c :: rest =>
    if isNameStart c then some (c :: rest.takeWhile isNameChar, rest.dropWhile isNameChar) else none

/-- A name at the front of a text, perhaps with a prefix and a colon. -/
def name? (s : List Char) : Option (List Char × List Char) := do
  let (first, rest) ← plainName? s
  match rest with
  | ':' :: rest =>
    let (second, rest) ← plainName? rest
    some (first ++ ':' :: second, rest)
  | rest => some (first, rest)

/-- What a reference stands for. -/
inductive Reference where
  | char (c : Char)
  | entity (name : List Char)

/-- The entities that need no declaration. -/
def predefined? (name : List Char) : Option Char :=
  if name == "lt".toList then some '<'
  else if name == "gt".toList then some '>'
  else if name == "amp".toList then some '&'
  else if name == "apos".toList then some '\''
  else if name == "quot".toList then some '"'
  else none

/-- The character of a code that a document may refer to. -/
def codeChar? (code : Nat) : Option Char :=
  if 0xD800 ≤ code && code ≤ 0xDFFF then none
  else if 0x110000 ≤ code then none
  else if isChar (Char.ofNat code) then some (Char.ofNat code)
  else none

def hexValue? (c : Char) : Option Nat :=
  if c.isDigit then some (c.toNat - 48)
  else if 'a' ≤ c && c ≤ 'f' then some (c.toNat - 87)
  else if 'A' ≤ c && c ≤ 'F' then some (c.toNat - 55)
  else none

/-- The code written with digits of a base, up to a semicolon. -/
def code? (base : Nat) (s : List Char) : Option (Nat × List Char) :=
  let isDigit (c : Char) : Bool := (hexValue? c).any (· < base)
  let digits := s.takeWhile isDigit
  match digits, s.dropWhile isDigit with
  | [], _ => none
  | digits, ';' :: rest =>
    some (digits.foldl (fun n c => min 0x110000 (n * base + (hexValue? c).getD 0)) 0, rest)
  | _, _ => none

/-- The reference behind an ampersand. -/
def reference? (s : List Char) : Option (Reference × List Char) :=
  match s with
  | '#' :: 'x' :: rest => do
    let (code, rest) ← code? 16 rest
    some (.char (← codeChar? code), rest)
  | '#' :: rest => do
    let (code, rest) ← code? 10 rest
    some (.char (← codeChar? code), rest)
  | s => do
    let (name, rest) ← plainName? s
    match rest with
    | ';' :: rest =>
      match predefined? name with
      | some c => some (.char c, rest)
      | none => some (.entity name, rest)
    | _ => none

/-- Takes a given text off the front. -/
def dropText? : List Char → List Char → Option (List Char)
  | [], s => some s
  | _ :: _, [] => none
  | a :: word, c :: s => if a == c then dropText? word s else none

/-- The texts before and after the first occurrence of a mark. -/
def cutAt? (mark : List Char) : List Char → Option (List Char × List Char)
  | [] => none
  | c :: rest =>
    match dropText? mark (c :: rest) with
    | some after => some ([], after)
    | none => (cutAt? mark rest).map fun (before, after) => (c :: before, after)

/-- The text behind a comment whose opening mark was read. Two hyphens end it. -/
def behindComment? (s : List Char) : Option (List Char) :=
  match cutAt? ['-', '-'] s with
  | some (_, '>' :: rest) => some rest
  | _ => none

/-- The text behind a processing instruction whose opening mark was read. Its target is not the
word `xml`, in any case. -/
def behindInstruction? (s : List Char) : Option (List Char) := do
  let (target, rest) ← plainName? s
  if target.map Char.toLower == "xml".toList then none
  else
    match rest with
    | '?' :: '>' :: rest => some rest
    | c :: rest => if isSpace c then (cutAt? ['?', '>'] rest).map (·.2) else none
    | [] => none

end Ripple.Xml
