-- SUMMARY: The application: settings, preparation, statistics, and a report for each table.
import Ripple.CommandLine.Arguments
import Ripple.CommandLine.Console
import Ripple.Graph.Chains

/-! # The application

The indices of a source tree are built, their statistics are printed, and the impact of each table
is reported.
-/

namespace Ripple.CommandLine

/-- How a run of the program ends. -/
structure Outcome where
  exit : Nat
  output : String := ""
  /-- Why the arguments were refused. -/
  usageError : Option String := none
deriving DecidableEq, Repr

namespace Application

def journal : String := "table_impact"

/-- The analyzer that the arguments ask for. No number of workers, or zero, leaves the settings as
they are. -/
def start (processors : Option Nat) (args : Arguments) : Work Analyzer := do
  let overrides := match args.workers with
    | none | some 0 => []
    | some workers => [("workers", Datum.int workers)]
  let settings ← Work.ofExcept (Settings.load processors (← Work.files) args.settings overrides)
  Analyzer.create settings none

/-- The file for the graph of a table. -/
def graphFile (folder : Path) (table : String) : Path :=
  folder.below ("impact_graph_" ++ table ++ ".json")

/-- Saves the graph of a result, if the arguments ask for it. -/
def draw (args : Arguments) (settings : Settings) (result : ImpactResult Json) : Work Unit := do
  if args.graph then
    let graph ← Work.ofExcept (ChainGraph.ofResult result)
    let _ ← graph.save journal (graphFile (args.outputDir.getD settings.cacheDir) result.table)

/-- Reports a result, and returns what is printed. -/
def publish (args : Arguments) (settings : Settings) (stamp : String) (result : ImpactResult Json) :
    Work String := do
  let output ← match args.outputDir with
    | some folder => do
      let _ ← Report.save journal args.format folder stamp result
      pure ""
    | none => do
      let text ← Work.ofExcept (args.format.render result)
      pure (Console.printed text)
  draw args settings result
  return output

/-- Reports results one after the other, and returns what is printed up to the first fault. -/
def publishAll (args : Arguments) (settings : Settings) (stamp : String) :
    String → List (ImpactResult Json) → Work (String × Option Fault)
  | output, [] => return (output, none)
  | output, result :: rest => do
    match ← (publish args settings stamp result).attempt with
    | .error fault => return (output, some fault)
    | .ok more => publishAll args settings stamp (output ++ more) rest

/-- Does what the arguments ask for, and returns what is printed up to the first fault. -/
def run (processors : Option Nat) (args : Arguments) (stamp : String) :
    Work (String × Option Fault) := do
  match ← (start processors args).attempt with
  | .error fault => return ("", some fault)
  | .ok analyzer =>
    match ← analyzer.prepare args.root with
    | (_, some fault) => return ("", some fault)
    | (analyzer, none) =>
      match analyzer.statistics with
      | .error fault => return ("", some fault)
      | .ok statistics =>
        let output := Console.statistics statistics
        match ← (analyzer.analyzeAll args.tables .null).attempt with
        | .error fault => return (output, some fault)
        | .ok results =>
          let (output, fault?) ←
            publishAll args analyzer.settings stamp output (results.map (·.2))
          if fault?.isNone then
            Work.log .info journal "Impact analysis completed successfully."
          return (output, fault?)

/-- The exit code of a run. -/
def exitCode : Option Fault → Nat
  | none => 0
  | some .cancelled => 130
  | some _ => 1

end Application

/-- Runs the program on arguments. The stamp goes into the names of reports. -/
def run (processors : Option Nat) (texts : List String) (stamp : String) : Work Outcome := do
  match Arguments.ofTexts texts with
  | .error .help => return { exit := 0 }
  | .error (.usage message) => return { exit := 2, usageError := some message }
  | .ok args =>
    let (output, fault?) ← Application.run processors args stamp
    return { exit := Application.exitCode fault?, output }

end Ripple.CommandLine
