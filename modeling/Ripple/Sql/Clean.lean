-- SUMMARY: The passes that clean the text of a statement.
import Ripple.Text.Blank
import Ripple.Text.CharClass

/-! # Cleaning statement text

Before table names are looked for, a statement loses what only gets in the way: bound parameters
become placeholders, and markup, comments and extra blanks become single spaces.
-/

namespace Ripple.Sql

/-- Looks for a passage at the front of a text, given the character before it; gives its length. -/
abbrev Recognizer := Option Char → List Char → Option Nat

/-- Replaces every passage, from left to right; `skip` characters of a passage are still to pass. -/
def replaceFrom (recognize : Recognizer) (replacement : List Char) (before : Option Char)
    (skip : Nat) : List Char → List Char
  | [] => []
  | c :: rest =>
    match skip with
    | skip + 1 => replaceFrom recognize replacement (some c) skip rest
    | 0 =>
      match recognize before (c :: rest) with
      | some (n + 1) => replacement ++ replaceFrom recognize replacement (some c) n rest
      | _ => c :: replaceFrom recognize replacement (some c) 0 rest

def replaceAll (recognize : Recognizer) (replacement : List Char) (s : List Char) : List Char :=
  replaceFrom recognize replacement none 0 s

/-- The length of a text up to and with the first occurrence of `mark`. -/
def lengthThrough (mark : List Char) : List Char → Option Nat
  | [] => if mark.isEmpty then some 0 else none
  | c :: rest =>
    if mark.isPrefixOf (c :: rest) then some mark.length
    else (lengthThrough mark rest).map (· + 1)

/-- A passage that begins with one mark and ends with the next occurrence of another. -/
def enclosed (first last : String) : Recognizer := fun _ s =>
  if first.toList.isPrefixOf s then
    (lengthThrough last.toList (s.drop first.length)).map (first.length + ·)
  else none

/-- A passage that is one of the given marks. -/
def anyOf (marks : List String) : Recognizer := fun _ s =>
  (marks.find? (·.toList.isPrefixOf s)).map String.length

/-- Letters, digits and underscores of the basic Latin block. -/
def isPlainWordChar (c : Char) : Bool :=
  c.isAlphanum || c == '_'

/-- A parameter between two equal signs, such as `#name#`. -/
def signed (sign : Char) : Recognizer := fun _ s =>
  match s with
  | [] => none
  | c :: rest =>
    let name := rest.takeWhile fun c => isPlainWordChar c || c == '.' || c == '[' || c == ']'
    if c == sign && !name.isEmpty && rest[name.length]? == some sign then some (name.length + 2)
    else none

/-- A parameter named behind a colon. A colon after another one, or inside a word, begins none. -/
def colonNamed : Recognizer := fun before s =>
  match s with
  | ':' :: c :: rest =>
    if before.any (fun b => b == ':' || Text.isWordChar b) then none
    else if c.isAlpha || c == '_' then some (2 + (rest.takeWhile isPlainWordChar).length)
    else none
  | _ => none

/-- Equality of a character and a letter of the basic Latin block, whatever their case. The `i` with
and without a dot of other alphabets, the long `s` and the sign for kelvin count as `i`, `s` and
`k`. -/
def sameLetter (letter c : Char) : Bool :=
  let l := letter.toLower
  c.toLower == l ||
    (l == 'i' && (c == 'İ' || c == 'ı')) || (l == 'k' && c == '\u212A') || (l == 's' && c == 'ſ')

/-- Whether a text is a word of the basic Latin block, whatever the case. -/
def sameWord : List Char → List Char → Bool
  | [], [] => true
  | a :: as, c :: cs => sameLetter a c && sameWord as cs
  | _, _ => false

/-- The elements of mapper files that make statements dynamic. -/
def dynamicTags : List String :=
  ["if", "where", "set", "choose", "when", "otherwise", "trim", "foreach", "bind", "include",
    "dynamic", "iterate", "isNull", "isNotNull", "isEmpty", "isNotEmpty", "isEqual", "isNotEqual",
    "isGreaterThan", "isGreaterEqual", "isLessThan", "isLessEqual", "isPropertyAvailable",
    "isNotPropertyAvailable", "isParameterPresent", "isNotParameterPresent"]

/-- The opening or closing tag of a dynamic element. -/
def dynamicTag : Recognizer := fun _ s =>
  match s with
  | '<' :: rest =>
    let (opening, rest) := match rest with
      | '/' :: r => (2, r)
      | r => (1, r)
    let name := rest.takeWhile Text.isWordChar
    if dynamicTags.any (sameWord ·.toList name) then
      (lengthThrough ['>'] (rest.drop name.length)).map (opening + name.length + ·)
    else none
  | _ => none

/-- A comment that a line feed ends; the line feed is not part of it. -/
def lineComment : Recognizer := fun _ s =>
  match s with
  | '-' :: '-' :: rest =>
    let text := rest.takeWhile (· != '\n')
    if text.length < rest.length then some (text.length + 2) else none
  | _ => none

/-- What stands for a bound parameter. -/
def placeholder : String := "?"

/-- The passages that are replaced, in the order in which they are, and what by. -/
def passes : List (Recognizer × String) :=
  [(enclosed "#\x7b" "\x7d", placeholder), (enclosed "$\x7b" "\x7d", placeholder),
    (signed '#', placeholder), (signed '$', placeholder), (colonNamed, placeholder),
    (anyOf ["#", "$"], placeholder), (enclosed "<!--" "-->", " "), (dynamicTag, " "),
    (anyOf ["<![CDATA[", "]]>"], " "), (enclosed "/*" "*/", " "), (lineComment, " "),
    (anyOf ["--", "/*", "*/"], " ")]

/-- A statement without parameters, markup, comments and extra blanks. -/
def cleanChars (sql : List Char) : List Char :=
  Text.singleSpaced (passes.foldl (fun s (pass, by_) => replaceAll pass by_.toList s) sql)

def clean (sql : String) : String :=
  String.ofList (cleanChars sql.toList)

end Ripple.Sql
