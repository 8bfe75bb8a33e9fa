-- SUMMARY: Scalars, anchors, tags and directives, read at a cursor.
import Ripple.Text.Integer
import Ripple.Xml.Lexical
import Ripple.Yaml.Cursor
import Ripple.Yaml.Token

/-! # Scalars, names, tags and directives -/

namespace Ripple.Yaml.Scan

/-! ## Plain scalars -/

/-- Whether a plain scalar ends before a character. -/
def endsPlain (flow : Bool) (c : Char) (after : Option Char) : Bool :=
  isGap c || (c == ':' && after.all fun d => isGap d || (flow && ",[]\x7b\x7d".toList.contains d)) ||
    (flow && ",?[]\x7b\x7d".toList.contains c)

/-- The front of a text that a plain scalar can have. -/
def plainFront (flow : Bool) : List Char → List Char
  | [] => []
  | c :: rest => if endsPlain flow c rest.head? then [] else c :: plainFront flow rest

/-- Takes the characters of a plain scalar up to the next blank. -/
def plainRun (flow : Bool) : Scan (List Char) := do
  let run := plainFront flow (← get).rest
  -- What follows a colon decides whether the scalar ends, so a fault behind it is met here.
  if (← peekAt run.length) == some ':' then discard (peekAt (run.length + 1))
  advance run.length
  return run

/-- The line breaks behind the first one, with the blanks around them; `none` at a marker. -/
def plainBreaks : Nat → Scan (Option (List Char))
  | 0 => return some []
  | fuel + 1 => do
    dropWhile (· == ' ')
    match ← lineBreak with
    | [] => return some []
    | shown =>
      if ← isAtAnyMarker then return none
      else return (← plainBreaks fuel).map (shown ++ ·)

/-- What the blanks between two parts of a scalar count as: a single line break is a space, and of
several the first is dropped. -/
def folded (first : List Char) (more : List Char) : List Char :=
  if first != ['\n'] then first ++ more else if more.isEmpty then [' '] else more

/-- The blanks behind a part of a plain scalar, and whether there is a line break among them. -/
def plainBlanks : Scan (List Char × Bool) := do
  let blanks ← takeWhile (· == ' ')
  match ← lineBreak with
  | [] => return (blanks, false)
  | first =>
    if ← isAtAnyMarker then return ([], true)
    else
      match ← plainBreaks (← bound) with
      | none => return ([], true)
      | some more => return (folded first more, true)

/-- A plain scalar, with `pending` blanks before its next part. The flag says whether a key may
follow. -/
def plain (flow : Bool) (indent : Int) : Nat → List Char → Bool → Scan (List Char × Bool)
  | 0, _, keyAllowed => return ([], keyAllowed)
  | fuel + 1, pending, keyAllowed => do
    let run ← if ← isAt (· == '#') then pure [] else plainRun flow
    if run.isEmpty then return ([], keyAllowed)
    else
      let (blanks, broken) ← plainBlanks
      let here := pending ++ run
      let isLeft := !flow && ((← column) : Int) < indent
      -- The blanks at the end are no part of the scalar.
      if blanks.isEmpty || isLeft || (← isAt (· == '#')) then return (here, broken)
      else
        let (more, keyAllowed) ← plain flow indent fuel blanks broken
        return (here ++ more, keyAllowed)

/-! ## Quoted scalars -/

/-- The character of an escape that is a single letter. -/
def escape? (c : Char) : Option Char :=
  [('0', '\x00'), ('a', '\x07'), ('b', '\x08'), ('t', '\t'), ('\t', '\t'), ('n', '\n'),
    ('v', '\x0b'), ('f', '\x0c'), ('r', '\r'), ('e', '\x1b'), (' ', ' '), ('"', '"'), ('\\', '\\'),
    ('/', '/'), ('N', '\x85'), ('_', '\xa0'), ('L', '\u2028'), ('P', '\u2029')].lookup c

/-- How many digits the code of an escape has. -/
def escapeWidth? (c : Char) : Option Nat :=
  [('x', 2), ('u', 4), ('U', 8)].lookup c

/-- The number that so many hexadecimal digits at a place stand for. -/
def hexCodeAt : Nat → Nat → Nat → Scan Nat
  | _, 0, code => return code
  | place, width + 1, code => do
    match (← peekAt place).bind Xml.hexValue? with
    | some digit => hexCodeAt (place + 1) width (code * 16 + digit)
    | none => fail

def hexCode (width : Nat) : Scan Nat :=
  hexCodeAt 0 width 0

/-- The character of an escaped code; surrogates become the replacement character. -/
def codeChar (code : Nat) : Scan Char :=
  if 0x80000000 ≤ code then throw .overflow
  else if 0x110000 ≤ code then throw .invalidValue
  else if 0xD800 ≤ code && code ≤ 0xDFFF then return '�'
  else return Char.ofNat code

/-- The line breaks at the cursor and the blanks around them. -/
def quotedBreaks : Nat → Scan (List Char)
  | 0 => return []
  | fuel + 1 => do
    if ← isAtAnyMarker then fail
    dropWhile fun c => c == ' ' || c == '\t'
    match ← lineBreak with
    | [] => return []
    | shown => return shown ++ (← quotedBreaks fuel)

/-- The escape behind a backslash. -/
def escaped : Scan (List Char) := do
  match ← peek with
  | none => fail
  | some c =>
    match escape? c, escapeWidth? c with
    | some shown, _ =>
      advance 1
      return [shown]
    | none, some width =>
      advance 1
      let shown ← codeChar (← hexCode width)
      advance width
      return [shown]
    | none, none =>
      if isBreak c then
        discard lineBreak
        quotedBreaks (← bound)
      else fail

/-- The next part of a quoted scalar; `none` at its closing quote. -/
def quotedPart (double : Bool) : Scan (Option (List Char)) := do
  match ← peek with
  | none => fail
  | some c =>
    if c == '\'' && !double then
      if (← peekAt 1) == some '\'' then
        advance 2
        return some ['\'']
      else return none
    else if c == '"' && double then return none
    else if c == '\\' && double then
      advance 1
      return some (← escaped)
    else if isGap c then
      let blanks ← takeWhile fun c => c == ' ' || c == '\t'
      if (← peek).isNone then fail
      match ← lineBreak with
      | [] => return some blanks
      | first => return some (folded first (← quotedBreaks (← bound)))
    else
      advance 1
      return some [c]

/-- The parts of a quoted scalar up to its closing quote. -/
def quotedParts (double : Bool) : Nat → Scan (List Char)
  | 0 => fail
  | fuel + 1 => do
    match ← quotedPart double with
    | none => return []
    | some part => return part ++ (← quotedParts double fuel)

/-- A quoted scalar. -/
def quoted (double : Bool) : Scan (List Char) := do
  advance 1
  let text ← quotedParts double (← bound)
  advance 1
  return text

/-! ## Block scalars -/

/-- What becomes of the line breaks at the end of a block scalar. -/
inductive Chomping where
  | strip
  | clip
  | keep
deriving DecidableEq

/-- Takes the sign for the end of a block scalar, if there is one. -/
def chomping? : Scan (Option Chomping) := do
  match ← peek with
  | some '+' =>
    advance 1
    return some .keep
  | some '-' =>
    advance 1
    return some .strip
  | _ => return none

/-- Takes the digit for the indentation of a block scalar, if there is one. -/
def increment? : Scan (Option Nat) := do
  match ← peek with
  | some c =>
    if !c.isDigit then return none
    else if c == '0' then fail
    else
      advance 1
      return some (c.toNat - 48)
  | none => return none

/-- The signs at the beginning of a block scalar, in either order. -/
def blockSigns : Scan (Chomping × Option Nat) := do
  let signs ←
    match ← chomping? with
    | some chomping => pure (chomping, ← increment?)
    | none =>
      match ← increment? with
      | some increment => pure ((← chomping?).getD .clip, some increment)
      | none => pure (.clip, none)
  expectEnd fun c => c == ' ' || isBreak c
  return signs

/-- The empty lines at the beginning of a block scalar, and the greatest indentation among them. -/
def blockIndentation : Nat → Nat → Scan (List Char × Nat)
  | 0, greatest => return ([], greatest)
  | fuel + 1, greatest => do
    if ← isAt (· == ' ') then
      advance 1
      blockIndentation fuel (max greatest (← column))
    else
      match ← lineBreak with
      | [] => return ([], greatest)
      | shown =>
        let (more, greatest) ← blockIndentation fuel greatest
        return (shown ++ more, greatest)

/-- Takes blanks up to an indentation. -/
def indentTo (indent : Nat) : Nat → Scan Unit
  | 0 => return
  | fuel + 1 => do
    if (← column) < indent then
      if ← isAt (· == ' ') then
        advance 1
        indentTo indent fuel

/-- The empty lines inside a block scalar. -/
def blockBreaks (indent : Nat) : Nat → Scan (List Char)
  | 0 => return []
  | fuel + 1 => do
    indentTo indent (← bound)
    match ← lineBreak with
    | [] => return []
    | shown => return shown ++ (← blockBreaks indent fuel)

/-- Whether another line of a block scalar begins here. -/
def isAtBlockLine (indent : Nat) : Scan Bool := do
  if (← column) == indent then return (← peek).isSome else return false

/-- The lines of a block scalar, given the empty lines before them. -/
def blockLines (fold : Bool) (chomping : Chomping) (indent : Nat) :
    Nat → List Char → Scan (List Char)
  | 0, _ => return []
  | fuel + 1, breaks => do
    let isText (c : Char) : Bool := c != ' ' && c != '\t'
    let startsWithText ← isAtOrEnd isText
    let line ← takeWhile (!isBreak ·)
    let first ← lineBreak
    let more ← blockBreaks indent (← bound)
    if ← isAtBlockLine indent then
      -- A single break between lines of text is a space, but not next to a line indented further.
      let between :=
        if fold && first == ['\n'] && startsWithText && (← isAtOrEnd isText) then
          if more.isEmpty then [' '] else []
        else first
      return breaks ++ line ++ between ++ (← blockLines fold chomping indent fuel more)
    else
      let ending := match chomping with
        | .strip => []
        | .clip => first
        | .keep => first ++ more
      return breaks ++ line ++ ending

/-- A block scalar, inside a block of the given indentation. -/
def block (fold : Bool) (outer : Int) : Scan (List Char) := do
  advance 1
  let (chomping, increment) ← blockSigns
  emptyLine
  let least := (max 1 (outer + 1)).toNat
  let fuel ← bound
  let (breaks, indent) ←
    match increment with
    | none => do
      let (breaks, greatest) ← blockIndentation fuel 0
      pure (breaks, max least greatest)
    | some n => do
      let indent := least + n - 1
      pure (← blockBreaks indent fuel, indent)
  if ← isAtBlockLine indent then blockLines fold chomping indent fuel breaks
  else return if chomping == .keep then breaks else []

/-! ## Names and tags -/

def isNamePart (c : Char) : Bool :=
  c.isAlphanum || c == '-' || c == '_'

/-- The name of an anchor or an alias, behind its sign. -/
def anchorName : Scan (List Char) := do
  advance 1
  let name ← takeWhile isNamePart
  if name.isEmpty then fail
  expectEnd fun c => isGap c || "?:,]\x7d%@\x60".toList.contains c
  return name

/-- The handle of a tag, with its exclamation marks. -/
def tagHandle : Scan (List Char) := do
  if (← peek) != some '!' then fail
  if (← peekAt 1) == some ' ' then
    advance 1
    return ['!']
  else
    let name := ((← get).rest.drop 1).takeWhile isNamePart
    if (← peekAt (name.length + 1)) != some '!' then
      fail
    advance (name.length + 2)
    return '!' :: name ++ ['!']

def isUriChar (c : Char) : Bool :=
  c.isAlphanum || "-;/?:@&=+$,_.!~*'()[]".toList.contains c

/-- A run of escaped bytes. -/
def uriBytes : Nat → Scan Bytes
  | 0 => return []
  | fuel + 1 => do
    if !(← isAt (· == '%')) then return []
    else
      advance 1
      let code ← hexCode 2
      advance 2
      return code.toUInt8 :: (← uriBytes fuel)

/-- The rest of a tag, which may hold escaped bytes that are a text. -/
def tagText : Nat → Scan (List Char)
  | 0 => return []
  | fuel + 1 => do
    let run ← takeWhile isUriChar
    if ← isAt (· == '%') then
      match Utf8.decode? (← uriBytes (← bound)) with
      | some shown => return run ++ shown ++ (← tagText fuel)
      | none => fail
    else return run

/-- A tag text that is not empty. -/
def tagBody : Scan (List Char) := do
  if ← isAt fun c => isUriChar c || c == '%' then tagText (← bound) else fail

/-- A tag: its handle, if it is not spelled out, and its rest. -/
def tag : Scan Token := do
  let isEnd (c : Char) : Bool := c == ' ' || isBreak c
  let (handle, suffix) ←
    match ← peekAt 1 with
    | some '<' => do
      advance 2
      let suffix ← tagBody
      if (← peek) != some '>' then fail
      advance 1
      pure (none, suffix)
    | next =>
      -- The exclamation mark stands alone.
      if next.all isGap then do
        advance 1
        pure (none, ['!'])
      else do
        let word := ((← get).rest.drop 1).takeWhile fun c => !isEnd c && c != '!'
        if (← peekAt (word.length + 1)) == some '!' then
          let handle ← tagHandle
          pure (some handle, ← tagBody)
        else
          advance 1
          pure (some ['!'], ← tagBody)
  expectEnd isEnd
  return .tag handle suffix

/-! ## Directives -/

/-- A number of a version. -/
def versionNumber : Scan Nat := do
  let digits := (← get).rest.takeWhile Char.isDigit
  discard (peekAt digits.length)
  if digits.isEmpty then fail
  match Text.readInteger? digits with
  | none => throw .invalidValue
  | some n =>
    advance digits.length
    return n.toNat

/-- A line in front of a document, with the cursor on its percent sign. -/
def directive : Scan Directive := do
  let isEnd (c : Char) : Bool := c == ' ' || isBreak c
  advance 1
  let name ← takeWhile isNamePart
  if name.isEmpty then fail
  expectEnd isEnd
  let found ←
    if name == "YAML".toList then do
      dropWhile (· == ' ')
      let major ← versionNumber
      if (← peek) != some '.' then fail
      advance 1
      discard versionNumber
      expectEnd isEnd
      pure (Directive.version major)
    else if name == "TAG".toList then do
      dropWhile (· == ' ')
      let handle ← tagHandle
      if (← peek) != some ' ' then fail
      dropWhile (· == ' ')
      let meaning ← tagBody
      expectEnd isEnd
      pure (Directive.handle handle meaning)
    else do
      dropWhile (!isBreak ·)
      pure Directive.other
  emptyLine
  return found

end Ripple.Yaml.Scan
