-- SUMMARY: The arguments of the command line, read into a folder, tables and options.
import Ripple.CommandLine.Option
import Ripple.Report.Rendering
import Ripple.Text.Integer

/-! # Arguments of the command line

A folder, the tables to look at, and options anywhere between them.
-/

namespace Ripple.CommandLine

/-- What the program is asked to do. -/
structure Arguments where
  root : Path
  tables : List String
  format : ReportFormat := .text
  settings : Option Path := none
  outputDir : Option Path := none
  graph : Bool := false
  workers : Option Int := none
deriving DecidableEq, Repr

/-- The arguments that were read. -/
structure Progress where
  root : Option Path := none
  tables : Option (List String) := none
  format : ReportFormat := .text
  settings : Option Path := none
  outputDir : Option Path := none
  graph : Bool := false
  workers : Option Int := none
  /-- The arguments that nothing asks for. -/
  extras : List String := []

namespace Progress

def refuse (flag : Flag) (reason : String) : Stop :=
  .usage ("argument " ++ flag.title ++ ": " ++ reason)

/-- Takes the value of an option. -/
def setValue (p : Progress) (flag : Flag) (value : String) : Except Stop Progress :=
  match flag with
  | .format =>
    match ReportFormat.ofName? value with
    | some format => .ok { p with format }
    | none =>
      .error (refuse flag ("invalid choice: " ++ Text.quoted value ++
        " (choose from 'json', 'text')"))
  | .settings => .ok { p with settings := some (Path.ofText value) }
  | .outputDir => .ok { p with outputDir := some (Path.ofText value) }
  | .workers =>
    match Text.readInteger? value.toList with
    | some n => .ok { p with workers := some n }
    | none => .error (refuse flag ("invalid int value: " ++ Text.quoted value))
  | .graph => .ok { p with graph := true }
  | .help => .error .help

def ignored (flag : Flag) (value : String) : Stop :=
  refuse flag ("ignored explicit argument " ++ Text.quoted value)

/-- What is attached to the short spelling for help may only be more of it. -/
def shortHelp : List Char → Stop
  | [] => .help
  | '-' :: rest => ignored .help (String.ofList ('-' :: rest))
  | ['h'] => .help
  | 'h' :: '=' :: rest => ignored .help (String.ofList rest)
  | 'h' :: rest => shortHelp rest
  | _ => .help

/-- Takes an option with what is attached to it, or with the next argument if it needs a value. The
number tells how many arguments were taken behind it. -/
def takeOption (p : Progress) (text : String) (given : Option Given) (rest : List Word) :
    Except Stop (Progress × Nat) :=
  match given with
  | none => .ok ({ p with extras := p.extras ++ [text] }, 0)
  | some ⟨flag, spelling, attached⟩ =>
    match attached with
    | none =>
      if flag.takesValue then
        match rest with
        | .value value :: _ => do return (← p.setValue flag value, 1)
        | _ => .error (refuse flag "expected one argument")
      else do return (← p.setValue flag "", 0)
    | some attached =>
      if flag.takesValue then do return (← p.setValue flag attached.text, 0)
      else if spelling == "-h" && !attached.sign then .error (shortHelp attached.text.toList)
      else .error (ignored flag attached.text)

/-- A value with the dividers around it. -/
def valueEnd (words : List Word) : Option (List Word) :=
  match words.dropWhile Word.isDivider with
  | .value _ :: rest => some (rest.dropWhile Word.isDivider)
  | _ => none

/-- A value and all values and dividers behind it. -/
def valuesEnd (words : List Word) : Option (List Word) :=
  match words.dropWhile Word.isDivider with
  | .value _ :: rest => some (rest.dropWhile fun word => !word.isOption)
  | _ => none

/-- The texts of the words in front of a rest, without the first divider. -/
def textsBefore (words rest : List Word) : List String :=
  ((words.take (words.length - rest.length)).map Word.text).erase "--"

def setRoot (p : Progress) (words rest : List Word) : Progress :=
  { p with root := some (Path.ofText ((textsBefore words rest).headD "")) }

def setTables (p : Progress) (words rest : List Word) : Progress :=
  { p with tables := some (textsBefore words rest) }

/-- Takes as much of the folder and the tables as there is, and returns the rest. -/
def takeValues (p : Progress) (words : List Word) : Progress × List Word :=
  if p.root.isNone then
    match valueEnd words with
    | none => (p, words)
    | some rest =>
      let p := p.setRoot words rest
      match valuesEnd rest with
      | none => (p, rest)
      | some rest' => (p.setTables rest rest', rest')
  else if p.tables.isNone then
    match valuesEnd words with
    | none => (p, words)
    | some rest => (p.setTables words rest, rest)
  else (p, words)

def addExtras (p : Progress) (words : List Word) : Progress :=
  { p with extras := p.extras ++ words.map Word.text }

/-- Takes options and the values between them, until no option is left. The fuel is at least the
number of words. -/
def takeWords : Nat → Progress → List Word → Except Stop Progress
  | 0, p, _ => .ok p
  | fuel + 1, p, words =>
    match words with
    | .option text given :: rest => do
      let (p, taken) ← p.takeOption text given rest
      takeWords fuel p (rest.drop taken)
    | words =>
      let (p', rest) := p.takeValues words
      if !words.any Word.isOption then .ok (p'.addExtras rest)
      else if rest.length < words.length then takeWords fuel p' rest
      else
        takeWords fuel (p.addExtras (words.takeWhile fun word => !word.isOption))
          (words.dropWhile fun word => !word.isOption)

/-- The arguments, if all are there that have to be, and no others. -/
def finish (p : Progress) : Except Stop Arguments :=
  match p.root, p.tables with
  | some root, some tables =>
    if p.extras.isEmpty then
      .ok { root, tables, format := p.format, settings := p.settings, outputDir := p.outputDir
            graph := p.graph, workers := p.workers }
    else .error (.usage ("unrecognized arguments: " ++ " ".intercalate p.extras))
  | root, tables =>
    let missing := (if root.isNone then ["root"] else []) ++
      if tables.isNone then ["tables"] else []
    .error (.usage ("the following arguments are required: " ++ ", ".intercalate missing))

end Progress

/-- Reads the arguments of the command line. -/
def Arguments.ofTexts (texts : List String) : Except Stop Arguments := do
  let words ← Word.ofTexts texts
  (← Progress.takeWords (words.length + 1) {} words).finish

end Ripple.CommandLine
