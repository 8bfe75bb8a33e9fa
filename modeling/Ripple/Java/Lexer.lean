-- SUMMARY: The lexer of Java source: escapes, comments, literals and operators.
import Ripple.Java.Token
import Ripple.Text.Blank
import Ripple.Text.Integer

/-! # From source text to tokens

Unicode escapes are replaced first, everywhere in the text. Comments and blanks separate tokens;
lines are counted by line feeds in them, so a line feed inside a string literal is not counted.
-/

namespace Ripple.Java

/-- Why a text has no tokens: a character or literal that the language does not know, a number cut
off by the end of the text, or an escape for a negative character code. -/
inductive LexError where
  | unrecognized
  | cutNumber
  | negativeEscape
deriving DecidableEq, Repr

/-- The character of an escape; surrogates are not paired up and become the replacement
character. -/
def escapeChar (code : Nat) : Char :=
  if 0xD800 ≤ code && code ≤ 0xDFFF then '�' else Char.ofNat code

/-- Where the scan for Unicode escapes stands: in plain text, behind a backslash, behind the mark
`u` of an escape, or inside the four digits of one. -/
inductive EscapeScan where
  | plain
  | backslash
  | mark

/-- Replaces Unicode escapes. `since` is the text since the last escape, backwards: it is repeated
in front of an escape mark that the end of the text cuts off. -/
def replaceEscapes (since : List Char) : EscapeScan → List Char → Except LexError (List Char)
  | .mark, [] => .ok since.reverse
  | _, [] => .ok []
  | .plain, c :: rest =>
    let scan := if c == '\\' then .backslash else .plain
    if c == '\\' && rest.head? == some 'u' then replaceEscapes (c :: since) scan rest
    else (replaceEscapes (c :: since) scan rest).map (c :: ·)
  | .backslash, c :: rest =>
    if c == 'u' then replaceEscapes (c :: since) .mark rest
    else (replaceEscapes (c :: since) .plain rest).map (c :: ·)
  | .mark, c :: rest =>
    if c == 'u' then replaceEscapes (c :: since) .mark rest
    else
      match Text.readHexadecimal? (c :: rest.take 3) with
      | none => .error .unrecognized
      | some code =>
        if code < 0 then .error .negativeEscape
        else (replaceEscapes [] .plain (rest.drop 3)).map (escapeChar code.toNat :: ·)
termination_by _ s => s.length
decreasing_by all_goals simp only [List.length_cons, List.length_drop]; omega

/-- The rest of a literal after its opening quote: its text up to the closing quote, and what
follows. Escapes are checked and kept. -/
def literalRest (quote : Char) : List Char → Option (List Char × List Char)
  | [] => none
  | '\\' :: c :: rest =>
    if "btnfru\"'\\01234567".toList.contains c then
      (literalRest quote rest).map fun (t, r) => ('\\' :: c :: t, r)
    else none
  | c :: rest =>
    if c == quote then some ([c], rest)
    else if c == '\\' then none
    else (literalRest quote rest).map fun (t, r) => (c :: t, r)

/-- The length of a run of digits with underscores between them, and one more for a mark of a long
integer that ends the scan. `none` if the text has ended before it. -/
def digitRun (isDigit : Char → Bool) : List Char → Option Nat
  | [] => none
  | s => some (go 0 0 s)
where
  /-- `run` characters are taken and `pending` underscores are seen. -/
  go (run pending : Nat) : List Char → Nat
    | [] => run
    | c :: rest =>
      if isDigit c then go (run + pending + 1) 0 rest
      else if c == '_' then go run (pending + 1) rest
      else if c == 'l' || c == 'L' then run + 1
      else run

def isHexDigit (c : Char) : Bool :=
  c.isDigit || ('a' ≤ c && c ≤ 'f') || ('A' ≤ c && c ≤ 'F')

def isOctalDigit (c : Char) : Bool := '0' ≤ c && c ≤ '7'

/-- One more than `n` if the text has a character of `marks` there. -/
def optionalAt (marks : List Char) (s : List Char) (n : Nat) : Nat :=
  match s[n]? with
  | some c => if marks.contains c then n + 1 else n
  | none => n

/-- The same for a literal that may not end with the text. -/
def optionalBeforeEnd (marks : List Char) (s : List Char) (n : Nat) : Except LexError Nat :=
  if n < s.length then .ok (optionalAt marks s n) else .error .cutNumber

/-- The length with the digits that begin at place `n`. -/
def digitsAt (isDigit : Char → Bool) (s : List Char) (n : Nat) : Except LexError Nat :=
  match digitRun isDigit (s.drop n) with
  | none => .error .cutNumber
  | some k => .ok (n + k)

/-- The marks of the type of a floating-point literal. -/
def floatMarks : List Char := ['f', 'F', 'd', 'D']

/-- The length of a decimal number, integer or floating point. -/
def decimalLength (s : List Char) : Except LexError Nat := do
  let n ← digitsAt Char.isDigit s 0
  match s[n]? with
  | none => return n
  | some c =>
    if !(('.' :: 'e' :: 'E' :: floatMarks).contains c) then return n
    let n ← if c == '.' then digitsAt Char.isDigit s (n + 1) else pure n
    match s[n]? with
    | none => return n
    | some e =>
      let n ←
        if e == 'e' || e == 'E' then digitsAt Char.isDigit s (optionalAt ['-', '+'] s (n + 1))
        else pure n
      return optionalAt floatMarks s n

/-- The length of a hexadecimal number, integer or floating point. A floating-point number has an
exponent, and the end of the text may not follow any part of it. -/
def hexLength (s : List Char) : Except LexError Nat := do
  let n ← digitsAt isHexDigit s 2
  match s[n]? with
  | none => return n
  | some c =>
    if !(['.', 'p', 'P'].contains c) then return n
    let n ← if c == '.' then digitsAt isHexDigit s (n + 1) else pure n
    match s[n]? with
    | none => .error .cutNumber
    | some p =>
      if p != 'p' && p != 'P' then .error .unrecognized
      else
        let n ← optionalBeforeEnd ['-', '+'] s (n + 1)
        let n ← digitsAt Char.isDigit s n
        optionalBeforeEnd floatMarks s n

/-- The length of a number that begins with a digit. A zero at the very end of the text is taken
for the start of a number in another base that the end cuts off. -/
def numberLength (s : List Char) : Except LexError Nat :=
  match s with
  | ['0'] => .error .cutNumber
  | '0' :: x :: _ =>
    if x == 'x' || x == 'X' then hexLength s
    else if x == 'b' || x == 'B' then digitsAt (fun c => c == '0' || c == '1') s 2
    else if isOctalDigit x then digitsAt isOctalDigit s 1
    else decimalLength s
  | s => decimalLength s

/-- The line feeds in a comment and the text after its end. -/
def afterComment : List Char → Option (Nat × List Char)
  | [] => none
  | '*' :: '/' :: rest => some (0, rest)
  | c :: rest => (afterComment rest).map fun (n, r) => (if c == '\n' then n + 1 else n, r)

/-- What a text begins with: space to skip, with the line feeds in it, or a token; in both cases
with the rest. -/
inductive Front where
  | skip (lines : Nat) (rest : List Char)
  | token (kind : TokenKind) (text rest : List Char)

/-- Cuts a token of a given length off the text. -/
def Front.take (kind : TokenKind) (n : Nat) (s : List Char) : Front :=
  .token kind (s.take n) (s.drop n)

/-- The operator that a text begins with. -/
def operatorAt? (s : List Char) : Option String :=
  operators.find? (·.toList.isPrefixOf s)

/-- Classifies the front of a text that is not empty. -/
def front (c : Char) (rest : List Char) : Except LexError Front :=
  let s := c :: rest
  let next := rest.head?
  if Text.isBlank c then
    .ok (.skip ((c :: rest.takeWhile Text.isBlank).count '\n') (rest.dropWhile Text.isBlank))
  else if c == '/' && next == some '/' then
    match rest.dropWhile (· != '\n') with
    | [] => .ok (.skip 0 [])
    | _ :: r => .ok (.skip 1 r)
  else if c == '/' && next == some '*' then
    match afterComment (rest.drop 1) with
    | some (lines, r) => .ok (.skip lines r)
    | none => .error .unrecognized
  else if "...".toList.isPrefixOf s then .ok (.take .operator 3 s)
  else if c == '@' then .ok (.take .atSign 1 s)
  else if c == '.' && next.any Char.isDigit then
    (decimalLength s).map (Front.take .literal · s)
  else if separators.contains c then .ok (.take .separator 1 s)
  else if c == '\'' || c == '"' then
    match literalRest c rest with
    | some (text, r) => .ok (.token .literal (c :: text) r)
    | none => .error .unrecognized
  else if c.isDigit then (numberLength s).map (Front.take .literal · s)
  else if Text.isIdentifierStart c then
    let word := c :: rest.takeWhile Text.isIdentifierPart
    .ok (.token (wordKind (String.ofList word)) word (rest.dropWhile Text.isIdentifierPart))
  else
    match operatorAt? s with
    | some op => .ok (.take .operator op.length s)
    | none => .error .unrecognized

/-- The tokens of a text whose escapes are replaced; `fuel` is at least its length. -/
def scan : Nat → Nat → List Char → Except LexError (List Token)
  | _, _, [] => .ok []
  | 0, _, _ => .error .unrecognized
  | fuel + 1, line, c :: rest =>
    match front c rest with
    | .error e => .error e
    | .ok (.skip lines r) => scan fuel (line + lines) r
    | .ok (.token kind text r) =>
      (scan fuel line r).map (⟨kind, String.ofList text, line⟩ :: ·)

/-- The tokens of a source text. -/
def tokenize (source : List Char) : Except LexError (List Token) := do
  let text ← replaceEscapes [] .plain source
  scan text.length 1 text

end Ripple.Java
