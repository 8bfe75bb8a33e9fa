-- SUMMARY: The lexer of YAML: indentation, possible keys, and tokens on demand.
import Ripple.Yaml.Lexeme

/-! # Reading tokens

Indentation becomes tokens that open and close blocks. A key without a sign in front is known only
when its colon is met, so the places where such a key may have begun are remembered, and the tokens
that announce it are put in there. Tokens are read when they are asked for, and one that may still
turn out to begin a key is held back.
-/

namespace Ripple.Yaml

/-- A place where a key may have begun. -/
structure KeyStart where
  /-- How many tokens there were before it. -/
  token : Nat
  /-- Whether nothing but a key can stand there. -/
  required : Bool
  index : Nat
  line : Nat
  column : Nat

structure Lexer where
  cursor : Cursor
  /-- How many more flow collections were opened than closed. -/
  flow : Int := 0
  indent : Int := -1
  outerIndents : List Int := []
  keyAllowed : Bool := true
  /-- The places of possible keys by the number of open flow collections. -/
  keyStarts : List (Int × KeyStart) := []
  /-- The tokens that were read and not taken. -/
  tokens : Array Token := #[]
  /-- How many tokens were taken. -/
  taken : Nat := 0
  /-- Whether the last token was read. -/
  isDone : Bool := false

/-- A step of reading tokens. -/
abbrev Lex (α : Type) := StateT Lexer (Except Fault) α

namespace Lexer

/-- Whether the lines do not count. They do not either behind a closing sign that closes nothing,
until the grammar refuses it. -/
def inFlow (lexer : Lexer) : Bool :=
  lexer.flow != 0

/-- Whether a place is too far back for a key: in another line, or over 1024 characters ago. -/
def isStale (lexer : Lexer) (start : KeyStart) : Bool :=
  start.line != lexer.cursor.line || start.index + 1024 < lexer.cursor.index

/-- Closes the blocks that are indented further than a column; `fuel` bounds their number. -/
def closeBlocksFrom : Nat → Int → Lexer → Lexer
  | 0, _, lexer => lexer
  | fuel + 1, column, lexer =>
    if column < lexer.indent then
      closeBlocksFrom fuel column
        { lexer with
          tokens := lexer.tokens.push .blockEnd, indent := lexer.outerIndents.headD (-1),
          outerIndents := lexer.outerIndents.tail }
    else lexer

def closeBlocks (column : Int) (lexer : Lexer) : Lexer :=
  if lexer.inFlow then lexer else closeBlocksFrom (lexer.outerIndents.length + 1) column lexer

/-- Opens a block at a column, unless one is open there or further in. The token that announces it
is put at a position. -/
def openBlock (column : Nat) (position : Nat) (token : Token) (lexer : Lexer) : Lexer :=
  if lexer.indent < column then
    { lexer with
      outerIndents := lexer.indent :: lexer.outerIndents, indent := column,
      tokens := lexer.tokens.insertIdxIfInBounds position token }
  else lexer

end Lexer

namespace Lex

def fail : Lex α :=
  throw .malformedDocument

/-- Reads from the text. -/
def scan (step : Scan α) : Lex α := do
  let lexer ← get
  let (a, cursor) ← step.run lexer.cursor
  set { lexer with cursor }
  return a

def add (token : Token) : Lex Unit :=
  modify fun lexer => { lexer with tokens := lexer.tokens.push token }

/-- Takes the next characters as a token. -/
def sign (width : Nat) (token : Token) : Lex Unit := do
  scan (Scan.advance width)
  add token

def allowKey (allowed : Bool) : Lex Unit :=
  modify fun lexer => { lexer with keyAllowed := allowed }

/-- Forgets the places that are too far back for a key. -/
def forgetStale : Lex Unit := do
  let lexer ← get
  if lexer.keyStarts.any fun (_, start) => lexer.isStale start && start.required then fail
  set { lexer with keyStarts := lexer.keyStarts.filter fun (_, start) => !lexer.isStale start }

/-- Forgets the key that may have begun at this level. -/
def forgetKey : Lex Unit := do
  let lexer ← get
  if (lexer.keyStarts.lookup lexer.flow).any (·.required) then fail
  set { lexer with keyStarts := lexer.keyStarts.filter (·.1 != lexer.flow) }

/-- Remembers that a key may begin here. -/
def rememberKey : Lex Unit := do
  if (← get).keyAllowed then
    forgetKey
    modify fun lexer =>
      let start : KeyStart :=
        { token := lexer.taken + lexer.tokens.size,
          -- In the column of the open block there is nothing but its keys.
          required := !lexer.inFlow && lexer.indent == lexer.cursor.column,
          index := lexer.cursor.index, line := lexer.cursor.line, column := lexer.cursor.column }
      { lexer with keyStarts := (lexer.flow, start) :: lexer.keyStarts }

/-- Skips blanks, comments and line breaks. Behind a line break outside of flow collections a key
may begin. -/
def skipBlanksFrom : Nat → Lex Unit
  | 0 => return
  | fuel + 1 => do
    scan Scan.skipComment
    if (← scan Scan.lineBreak) != [] then
      if !(← get).inFlow then allowKey true
      skipBlanksFrom fuel

/-- Skips what is in front of the next token. A document may begin with a byte order mark. -/
def skipBlanks : Lex Unit := do
  if (← get).cursor.index == 0 then
    if ← scan (Scan.isAt (· == '\ufeff')) then scan (Scan.advance 1)
  skipBlanksFrom (← scan Scan.bound)

/-- Leaves all blocks, as at a line that belongs to no document. -/
def leaveDocument : Lex Unit := do
  modify (Lexer.closeBlocks (-1))
  forgetKey
  allowKey false

def openFlow (token : Token) : Lex Unit := do
  rememberKey
  modify fun lexer => { lexer with flow := lexer.flow + 1, keyAllowed := true }
  sign 1 token

def closeFlow (token : Token) : Lex Unit := do
  forgetKey
  modify fun lexer => { lexer with flow := lexer.flow - 1, keyAllowed := false }
  sign 1 token

/-- A sign in front of an entry or a key of a block, which may open the block. -/
def blockSign (start token : Token) (keyAllowed : Bool) : Lex Unit := do
  if !(← get).inFlow then
    if !(← get).keyAllowed then fail
    modify fun lexer => lexer.openBlock lexer.cursor.column lexer.tokens.size start
  allowKey keyAllowed
  forgetKey
  sign 1 token

/-- The colon behind a key. -/
def valueSign : Lex Unit := do
  let lexer ← get
  match lexer.keyStarts.lookup lexer.flow with
  | some start =>
    -- The token of the key goes in where the key began, and that of a new block in front of it.
    let position := start.token - lexer.taken
    modify fun lexer =>
      { lexer with
        keyStarts := lexer.keyStarts.filter (·.1 != lexer.flow),
        tokens := lexer.tokens.insertIdxIfInBounds position .key, keyAllowed := false }
    if !lexer.inFlow then modify (Lexer.openBlock start.column position .blockMappingStart)
    sign 1 .value
  | none => blockSign .blockMappingStart .value (!lexer.inFlow)

/-- A part of a node that can begin a key. -/
def keyPart (read : Scan Token) : Lex Unit := do
  rememberKey
  allowKey false
  add (← scan read)

def blockScalar (fold : Bool) : Lex Unit := do
  allowKey true
  forgetKey
  add (.scalar (← scan (Scan.block fold (← get).indent)) false)

def plainScalar : Lex Unit := do
  rememberKey
  let lexer ← get
  let fuel ← scan Scan.bound
  let (text, keyAllowed) ← scan (Scan.plain lexer.inFlow (lexer.indent + 1) fuel [] false)
  allowKey keyAllowed
  add (.scalar text true)

/-- Whether a blank or the end of the document comes behind the next character. -/
def gapFollows : Lex Bool :=
  return (← scan (Scan.peekAt 1)).all isGap

/-- Whether a plain scalar can begin with a character here. -/
def isAtPlain (c : Char) : Lex Bool := do
  let signs := "-?:,[]\x7b\x7d#&*!|>'\"%@\x60".toList
  if !(isGap c || signs.contains c) then return true
  else if ← gapFollows then return false
  else return c == '-' || (!(← get).inFlow && (c == '?' || c == ':'))

/-- A character with a meaning of its own, if it has that meaning here. -/
def indicator (c : Char) : Lex Bool := do
  let lexer ← get
  let atLineStart := lexer.cursor.column == 0
  let standsAlone : Lex Bool := if lexer.inFlow then pure true else gapFollows
  let taken (step : Lex Unit) : Lex Bool := do
    step
    return true
  match c with
  | '%' =>
    if !atLineStart then return false
    else taken do
      leaveDocument
      add (.directive (← scan Scan.directive))
  | '.' =>
    if !atLineStart then return false
    else if ← scan (Scan.isAtMarker '.') then taken do
      leaveDocument
      sign 3 .documentEnd
    else return false
  | '-' =>
    if ← (if atLineStart then scan (Scan.isAtMarker '-') else pure false) then taken do
      leaveDocument
      sign 3 .documentStart
    else if ← gapFollows then taken (blockSign .blockSequenceStart .blockEntry true)
    else return false
  | '[' => taken (openFlow .flowSequenceStart)
  | '\x7b' => taken (openFlow .flowMappingStart)
  | ']' => taken (closeFlow .flowSequenceEnd)
  | '\x7d' => taken (closeFlow .flowMappingEnd)
  | ',' => taken do
    allowKey true
    forgetKey
    sign 1 .flowEntry
  | '?' => do
    if ← standsAlone then taken (blockSign .blockMappingStart .key (!lexer.inFlow))
    else return false
  | ':' => do if ← standsAlone then taken valueSign else return false
  | '*' => taken (keyPart do return .alias (← Scan.anchorName))
  | '&' => taken (keyPart do return .anchor (← Scan.anchorName))
  | '!' => taken (keyPart Scan.tag)
  | '|' => do if lexer.inFlow then return false else taken (blockScalar false)
  | '>' => do if lexer.inFlow then return false else taken (blockScalar true)
  | '\'' => taken (keyPart do return .scalar (← Scan.quoted false) false)
  | '"' => taken (keyPart do return .scalar (← Scan.quoted true) false)
  | _ => return false

/-- Reads the next token, and those that have to be put in front of it. -/
def fetch : Lex Unit := do
  skipBlanks
  forgetStale
  modify fun lexer => lexer.closeBlocks lexer.cursor.column
  match ← scan Scan.peek with
  | none =>
    leaveDocument
    add .streamEnd
    modify fun lexer => { lexer with isDone := true }
  | some c =>
    if ← indicator c then return
    else if ← isAtPlain c then plainScalar
    else fail

/-- Whether the first token can be given away. It cannot if there is none, or if a key may begin
with it. -/
def isReady : Lex Bool := do
  if (← get).isDone then return true
  else if (← get).tokens.isEmpty then return false
  else
    forgetStale
    let lexer ← get
    return !lexer.keyStarts.any fun (_, start) => start.token == lexer.taken

/-- Reads tokens until the first one can be given away. -/
def fill : Nat → Lex Unit
  | 0 => fail
  | fuel + 1 => do
    if !(← isReady) then
      fetch
      fill fuel

/-- The next token. -/
def peek : Lex (Option Token) := do
  fill ((← get).cursor.size + 3)
  return (← get).tokens[0]?

/-- Takes the next token. -/
def skip : Lex Unit :=
  modify fun lexer =>
    { lexer with tokens := lexer.tokens.eraseIdxIfInBounds 0, taken := lexer.taken + 1 }

end Lex

end Ripple.Yaml
