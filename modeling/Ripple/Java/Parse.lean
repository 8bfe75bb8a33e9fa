-- SUMMARY: Parsers over tokens, with the restart points of failed attempts.
import Ripple.Java.Token

/-! # Parsers over tokens

A parser reads tokens from a cursor and may fail. A failed attempt goes back to its restart point,
which is where it began until an attempt inside it succeeds: from then on it is where that inner
attempt began.
-/

namespace Ripple.Java

/-- Why a parser stops: a token that does not fit, a token asked for behind the last one, or an
expression that the end of the input follows at once. -/
inductive ParseError where
  | unexpected
  | exhausted
  | danglingExpression
deriving DecidableEq, Repr

/-- The next token and the restart point of the innermost attempt. -/
structure Cursor where
  position : Nat
  restart : Nat
deriving DecidableEq, Repr

/-- A parser. It leaves the cursor where it stopped, also on failure. -/
def Parse (α : Type) := Array Token → Cursor → Except ParseError α × Cursor

namespace Parse

variable {α β : Type}

instance : Monad Parse where
  pure a _ cursor := (.ok a, cursor)
  bind p f tokens cursor :=
    match p tokens cursor with
    | (.ok a, cursor) => f a tokens cursor
    | (.error e, cursor) => (.error e, cursor)

def fail (e : ParseError) : Parse α := fun _ cursor => (.error e, cursor)

/-- The token `i` places ahead. -/
def peekAt (i : Nat) : Parse Token := fun tokens cursor =>
  (.ok (tokens.getD (cursor.position + i) .endOfInput), cursor)

def peek : Parse Token := peekAt 0

/-- Takes the next token. -/
def next : Parse Token := fun tokens cursor =>
  match tokens[cursor.position]? with
  | some token => (.ok token, { cursor with position := cursor.position + 1 })
  | none => (.error .exhausted, cursor)

/-- Tries a parser. If it meets an unexpected token, the cursor goes back to the restart point. -/
def attempt (p : Parse α) : Parse (Option α) := fun tokens cursor =>
  match p tokens ⟨cursor.position, cursor.position⟩ with
  | (.ok a, after) => (.ok (some a), after)
  | (.error .unexpected, after) => (.ok none, ⟨after.restart, cursor.restart⟩)
  | (.error e, after) => (.error e, ⟨after.restart, cursor.restart⟩)

/-- Runs a test that reads tokens. If it fails, the cursor goes back to the restart point. -/
def tested (p : Parse Bool) : Parse Bool := fun tokens cursor =>
  match p tokens ⟨cursor.position, cursor.position⟩ with
  | (.ok false, after) => (.ok false, ⟨after.restart, cursor.restart⟩)
  | result => result

/-- Reads the end of the input inside a parser as an unexpected token. -/
def closed (p : Parse α) : Parse α := fun tokens cursor =>
  match p tokens cursor with
  | (.error .exhausted, after) => (.error .unexpected, after)
  | result => result

/-- The number of tokens of the input. -/
def inputSize : Parse Nat := fun tokens cursor => (.ok tokens.size, cursor)

/-- Repeats a parser until it answers `none`, at most `n` times. -/
def repeatUpTo (step : Parse (Option α)) : Nat → Parse (List α)
  | 0 => fail .unexpected
  | n + 1 => do
    match ← step with
    | none => pure []
    | some a => return a :: (← repeatUpTo step n)

/-- Repeats a parser until it answers `none`. Every round but the last takes a token. -/
def collect (step : Parse (Option α)) : Parse (List α) := do
  repeatUpTo step ((← inputSize) + 1)

end Parse

open Parse

/-- What a token is compared with: its text or its class. -/
inductive Expect where
  | text (s : String)
  | kind (k : TokenKind)

instance : Coe String Expect := ⟨.text⟩

def Expect.accepts : Expect → Token → Bool
  | .text s, token => token.text == s && token.kind != .endOfInput
  | .kind k, token => token.kind == k

def anIdentifier : Expect := .kind .identifier

def aBasicType : Expect := .kind .basicType

/-- Whether the next tokens are as expected. -/
def ahead (expected : List Expect) : Parse Bool := fun tokens cursor =>
  let found := expected.zipIdx.all fun (e, i) =>
    e.accepts (tokens.getD (cursor.position + i) .endOfInput)
  (.ok found, cursor)

/-- Takes the next tokens if they are as expected. -/
def taken (expected : List Expect) : Parse Bool := do
  if ← ahead expected then
    expected.forM fun _ => discard next
    return true
  else return false

/-- Takes the next token, which must be as expected. -/
def expectToken (expected : Expect) : Parse Token := do
  let token ← next
  if expected.accepts token then return token else fail .unexpected

/-- Takes tokens with the given texts. -/
def expect (texts : List String) : Parse Unit :=
  texts.forM fun s => discard (expectToken (.text s))

def identifier : Parse String := do
  return (← expectToken anIdentifier).text

/-- One item or more, with a separator between them. -/
def separated (separator : String) (item : Parse α) : Parse (List α) := do
  let first ← item
  let rest ← collect do
    if ← taken [separator] then return some (← item) else return none
  return first :: rest

/-- Items up to a closing token, which is left. -/
def itemsUntil (close : String) (item : Parse α) : Parse (List α) :=
  collect do
    if ← ahead [close] then return none else return some (← item)

/-- A dotted name. -/
def qualifiedName : Parse String := do
  return ".".intercalate (← separated "." identifier)

/-- Whether an annotation begins `i` tokens ahead; the declaration of an annotation type does not
count. -/
def annotationAhead (i : Nat) : Parse Bool := do
  return (← peekAt i).kind == .atSign && (← peekAt (i + 1)).text != "interface"

/-- Whether the declaration of an annotation type begins here. -/
def annotationTypeAhead : Parse Bool := do
  return (← peek).kind == .atSign && (← peekAt 1).text == "interface"

end Ripple.Java
