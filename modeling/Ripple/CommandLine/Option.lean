-- SUMMARY: Options of the command line, their shortened forms and attached values.
import Ripple.Text.Blank
import Ripple.Text.CharClass

/-! # Options of the command line

An option can be shortened as long as it is clear which one is meant, and its value can be attached
with an equals sign.
-/

namespace Ripple.CommandLine

/-- The options. -/
inductive Flag where
  | help
  | format
  | settings
  | outputDir
  | graph
  | workers
deriving DecidableEq, Repr

namespace Flag

def all : List Flag :=
  [.help, .format, .settings, .outputDir, .graph, .workers]

def spellings : Flag → List String
  | .help => ["-h", "--help"]
  | .format => ["--format"]
  | .settings => ["--settings"]
  | .outputDir => ["--output-dir"]
  | .graph => ["--graph"]
  | .workers => ["--workers"]

/-- The option as messages name it. -/
def title (flag : Flag) : String :=
  "/".intercalate flag.spellings

def takesValue : Flag → Bool
  | .help | .graph => false
  | .format | .settings | .outputDir | .workers => true

/-- All spellings with their options. -/
def table : List (String × Flag) :=
  all.flatMap fun flag => flag.spellings.map (·, flag)

def ofSpelling? (spelling : String) : Option Flag :=
  table.lookup spelling

end Flag

/-- Why the arguments are not taken. -/
inductive Stop where
  /-- Help is asked for. -/
  | help
  | usage (message : String)
deriving DecidableEq, Repr

/-- A value in the same argument as its option. -/
structure Attached where
  text : String
  /-- Whether an equals sign stands before it. -/
  sign : Bool
deriving DecidableEq, Repr

/-- An option as it is meant: how it is spelled in full, and what is attached. -/
structure Given where
  flag : Flag
  spelling : String
  attached : Option Attached := none
deriving DecidableEq, Repr

/-- An argument. -/
inductive Word where
  | value (text : String)
  /-- Two dashes; there are no options behind them. -/
  | divider
  /-- An option, `none` if it is not known. -/
  | option (text : String) (given : Option Given)
deriving DecidableEq, Repr

namespace Word

def text : Word → String
  | .value text => text
  | .divider => "--"
  | .option text _ => text

def isOption : Word → Bool
  | .option .. => true
  | _ => false

def isDivider : Word → Bool
  | .divider => true
  | _ => false

/-- Digits, perhaps with a point before some of them, behind a dash. One line end may follow. -/
def isNegativeNumber (s : List Char) : Bool :=
  let digits (s : List Char) : Bool := !s.isEmpty && s.all Text.isDecimalDigit
  match s with
  | '-' :: rest =>
    let rest := if rest.getLast? == some '\n' then rest.dropLast else rest
    digits rest ||
      match Text.cutFirst? (· == '.') rest with
      | some (whole, fraction) => whole.all Text.isDecimalDigit && digits fraction
      | none => false
  | _ => false

/-- The part before the first equals sign, and what is attached behind it. -/
def cutSign (s : List Char) : List Char × Option Attached :=
  match Text.cutFirst? (· == '=') s with
  | some (before, after) => (before, some ⟨String.ofList after, true⟩)
  | none => (s, none)

/-- The options that a shortened spelling can stand for. Behind a single dash and a letter a value
can follow directly. -/
def candidates (s : List Char) : List Given :=
  match s with
  | '-' :: '-' :: _ =>
    let (before, attached) := cutSign s
    (Flag.table.filter fun (spelling, _) => before.isPrefixOf spelling.toList).map
      fun (spelling, flag) => ⟨flag, spelling, attached⟩
  | _ =>
    Flag.table.filterMap fun (spelling, flag) =>
      if spelling.toList == s.take 2 then
        some ⟨flag, spelling, some ⟨String.ofList (s.drop 2), false⟩⟩
      else if s.isPrefixOf spelling.toList then some ⟨flag, spelling, none⟩
      else none

/-- The option of an argument that begins with a dash and is no full spelling. -/
def ofShortened (text : String) : Except Stop Word :=
  let s := text.toList
  match candidates s with
  | [given] => .ok (.option text (some given))
  | [] =>
    if isNegativeNumber s || s.contains ' ' then .ok (.value text)
    else .ok (.option text none)
  | several =>
    .error (.usage ("ambiguous option: " ++ text ++ " could match " ++
      ", ".intercalate (several.map (·.spelling))))

/-- The option of an argument that begins with a dash. -/
def ofDashed (text : String) : Except Stop Word :=
  match Flag.ofSpelling? text with
  | some flag => .ok (.option text (some ⟨flag, text, none⟩))
  | none =>
    if text.length == 1 then .ok (.value text)
    else
      let (before, attached) := cutSign text.toList
      let spelling := String.ofList before
      match attached, Flag.ofSpelling? spelling with
      | some attached, some flag => .ok (.option text (some ⟨flag, spelling, some attached⟩))
      | _, _ => ofShortened text

def ofText (text : String) : Except Stop Word :=
  if text.toList.head? == some '-' then ofDashed text else .ok (.value text)

/-- The words of all arguments. -/
def ofTexts : List String → Except Stop (List Word)
  | [] => .ok []
  | "--" :: rest => .ok (.divider :: rest.map .value)
  | text :: rest => do return (← ofText text) :: (← ofTexts rest)

end Word

end Ripple.CommandLine
