-- SUMMARY: Source files read from disk: their syntax, their calls, and the names of their methods.
import Ripple.Call.Extraction
import Ripple.Java.Grammar.Declarations
import Ripple.Java.Lexer
import Ripple.Text.Encoding
import Ripple.Workspace

/-! # Source files

Reading a source file gives its syntax, or a message that tells why there is none. Only an unknown
encoding, one that the file does not follow, or a name that no file can have is a fault.
-/

namespace Ripple.Java

/-- The part that the messages about source files come from. -/
def sourceJournal : String := "table_impact.java_source"

/-- Why a text is no source file. -/
inductive SourceError where
  | unreadable
  | untokenized
  | misplacedToken
  | interrupted
deriving DecidableEq, Repr

def SourceError.message (path : Path) : SourceError → Message
  | .unreadable => ⟨.error, sourceJournal, "Error reading source file " ++ path.text⟩
  | .untokenized => ⟨.warning, sourceJournal, "Could not tokenize " ++ path.text⟩
  | .misplacedToken => ⟨.warning, sourceJournal, "Syntax error in " ++ path.text⟩
  | .interrupted => ⟨.warning, sourceJournal, "Parser failure in " ++ path.text⟩

/-- Parses a source text. -/
def CompilationUnit.parse (text : List Char) : Except Fault (Except SourceError CompilationUnit) :=
  match tokenize text with
  | .error .unrecognized => .ok (.error .untokenized)
  | .error .cutNumber => .ok (.error .interrupted)
  | .error .negativeEscape => .error .invalidValue
  | .ok tokens =>
    match CompilationUnit.ofTokens tokens with
    | .ok unit => .ok (.ok unit)
    | .error .unexpected => .ok (.error .misplacedToken)
    | .error .exhausted => .ok (.error .interrupted)
    | .error .danglingExpression => .ok (.error .interrupted)

/-- The encoding of a name, which a fault stands for if it is not known. -/
def encodingOf (name : String) : Except Fault Encoding :=
  match Encoding.ofName? name with
  | some encoding => .ok encoding
  | none => .error .unknownEncoding

/-- Reads and parses a source file. Its encoding is looked up once the file is found. -/
def CompilationUnit.load (files : Disk) (encoding : String) (path : Path) :
    Except Fault (Except SourceError CompilationUnit) := do
  if encoding.toList.contains '\x00' then .error .invalidValue
  else
    match files.read path with
    | .error .zeroInPath => .error .invalidValue
    | .error _ => return .error .unreadable
    | .ok bytes =>
      match (← encodingOf encoding).decode? bytes with
      | none => .error .missingByteOrder
      | some text => CompilationUnit.parse (Text.plainLineEnds text)

/-- What a source file contributes to the call index. -/
structure FileCalls where
  parsed : Bool
  sites : List CallSite
  unresolved : Nat

/-- The call site of a call whose receiver is known. -/
def Outcome.site? : Outcome → Option CallSite
  | .site found => some found
  | .unresolved => none

/-- What a syntax tree contributes. -/
def FileCalls.ofUnit (unit : CompilationUnit) (file : String) : FileCalls :=
  let outcomes := unit.calls file
  ⟨true, outcomes.filterMap Outcome.site?, outcomes.countP (· == .unresolved)⟩

/-- The calls of a source file, and the messages about it. -/
def FileCalls.load (files : Disk) (encoding : String) (path : Path) :
    Except Fault (List Message × FileCalls) := do
  match ← CompilationUnit.load files encoding path with
  | .error e => return ([e.message path], ⟨false, [], 0⟩)
  | .ok unit => return ([], .ofUnit unit path.text)

/-- The methods that a source file declares, and the messages about it; `none` if it cannot be
parsed. -/
def loadMethodNames (files : Disk) (encoding : String) (path : Path) :
    Except Fault (List Message × Option (List String)) := do
  match ← CompilationUnit.load files encoding path with
  | .error e => return ([e.message path], none)
  | .ok unit => return ([], some unit.methodNames)

end Ripple.Java
