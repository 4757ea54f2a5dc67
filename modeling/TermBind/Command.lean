import TermBind.Command.Listing
import TermBind.Command.Usage
import TermBind.DirectorySink
import TermBind.Discovery
import TermBind.Settings
import TermBind.Workspace.Session

/-! The commands of the program. They ask a host for files and leave lines to print. -/
namespace TermBind.Command

open File

/-- Lines of the result, and remarks on the way to it. -/
structure Transcript where
  output : List String := []
  remarks : List String := []
deriving DecidableEq, Repr, Inhabited

/-- Why a command could not be carried through. -/
inductive Failure where
  | settings (problem : SettingsProblem)
  | discovery (problem : DiscoveryProblem)
  | storage (problem : StorageProblem)
  | report (path : Path)
deriving Repr

def Failure.message : Failure → String
  | .settings problem => problem.message
  | .discovery problem => problem.message
  | .storage problem => problem.message
  | .report path => s!"IO error: cannot write {path.text}"

abbrev Run (m : Type → Type) := ExceptT Failure (StateT Transcript m)

namespace Run

variable {m : Type → Type} [Monad m]

def ofHost {α : Type} (action : m α) : Run m α := ExceptT.lift (StateT.lift action)

/-- What an action gives; its failure is that of the command. -/
def require {ε α : Type} (failure : ε → Failure) (action : ExceptT ε m α) : Run m α := do
  match ← ofHost action.run with
  | .ok value => return value
  | .error problem => throw (failure problem)

def print (lines : List String) : Run m Unit :=
  modify fun transcript => { transcript with output := transcript.output ++ lines }

/-- Remarks are only made when they are wanted. -/
def remark (isWanted : Bool) (lines : List String) : Run m Unit :=
  if isWanted then modify fun transcript => { transcript with remarks := transcript.remarks ++ lines }
  else return ()

end Run

variable {m : Type → Type} [Monad m] [Wording] (host : Host m)

/-- The settings of the given file, else of the file with the usual name, else the usual settings
for the working directory. -/
def settings (isVerbose : Bool) : Option Path → Run m Config
  | some path => Run.require .settings (Config.ofFile host path)
  | none => do
    if ← Run.ofHost (host.isPresent ⟨Config.fileName⟩) then
      Run.require .settings (Config.ofFile host ⟨Config.fileName⟩)
    else
      Run.remark isVerbose ["No config file found, using defaults"]
      return { projectRoot := ← Run.ofHost host.workingDirectory }

/-- What comes of the files of a project. -/
def outputOf (config : Config) (files : ProjectFiles) : Output :=
  ((Workspace.Session.ofFiles config files.sources files.schemas).fetch .pipeline).1

/-- What is asked for in the source files of a project. -/
def inventoryOf (config : Config) (files : ProjectFiles) : Inventory :=
  .ofOutcomes config.severity <|
    files.sources.flatMap fun file => Workspace.scanOf config file.1 file.2

def evaluate (isVerbose : Bool) (config : Config) : Run m Output := do
  let files ← Run.require .discovery (discover host config)
  Run.remark isVerbose
    [s!"Found {files.sources.length} source files, {files.schemas.length} schema documents"]
  return outputOf config files

def save (isVerbose : Bool) (report : Report) (path : Path) : Run m Unit := do
  if ← Run.ofHost (host.writeText path report.toJson) then
    Run.remark isVerbose [s!"Report saved to: {path.text}"]
  else throw (.report path)

/-- Store the artifacts in a directory. Where some could not be stored, the diagnostics are printed
before the command fails. -/
def store (isVerbose : Bool) (root : Path) (output : Output) : Run m DirectorySink := do
  let (problem, sink) ← Run.ofHost ((output.emit (DirectorySink.sink host)).run { root })
  if let some problem := problem then
    Run.print (sink.diagnostics.flatMap diagnosticLines)
    throw (.storage problem)
  Run.remark isVerbose ((sink.written.map fun path => s!"  Wrote {path.text}") ++
    [s!"Artifacts: {sink.written.length} written, {sink.unchanged} unchanged in {root.text}"])
  return sink

/-- Store the artifacts and print a report; says whether there are errors. -/
def generate (timestamp : String) (isVerbose : Bool) (config : Config)
    (outDirectory reportPath : Option Path) : Run m Bool := do
  Run.remark isVerbose ["Generating sources (with incremental computation)..."]
  let output ← evaluate host isVerbose config
  let root := outDirectory.getD (config.resolve config.output.directory)
  let sink ← store host isVerbose root output
  let report := output.report timestamp
  if let some path := reportPath then save host isVerbose report path
  Run.print (reportLines sink.diagnostics report.summary)
  return report.hasErrors

/-- Save and print a report without storing artifacts; says whether there are errors. -/
def check (timestamp : String) (isVerbose : Bool) (config : Config) (reportPath : Path) :
    Run m Bool := do
  Run.remark isVerbose ["Checking schema bindings..."]
  let output ← evaluate host isVerbose config
  let report := output.report timestamp
  save host isVerbose report reportPath
  Run.print (reportLines report.diagnostics report.summary)
  return report.hasErrors

/-- Print what the source files ask for; says whether there are errors. -/
def bindings (isVerbose : Bool) (config : Config) : Run m Bool := do
  let files ← Run.require .discovery (discover host config)
  let inventory := inventoryOf config files
  Run.print (inventory.lines isVerbose)
  return inventory.hasErrors

/-- Carry out what is asked for; says whether there are errors. -/
def perform (timestamp : String) (invocation : Invocation) : Run m Bool := do
  let isVerbose := invocation.isVerbose
  let config ← settings host isVerbose invocation.config
  Run.remark isVerbose [s!"Binding annotation: {config.binding.annotationName}"]
  match invocation.task with
  | .generate outDirectory reportPath =>
    generate host timestamp isVerbose config outDirectory reportPath
  | .check reportPath => check host timestamp isVerbose config reportPath
  | .bindings => bindings host isVerbose config

/-- What is left of a run: the status with which the program ends, and the lines printed. -/
structure Ended where
  status : Nat
  transcript : Transcript
deriving DecidableEq, Repr

namespace Ended

/-- Errors in the project and failures of the program have the same status. -/
def ofResult : Except Failure Bool × Transcript → Ended
  | (.ok hasErrors, transcript) => ⟨if hasErrors then 1 else 0, transcript⟩
  | (.error failure, transcript) =>
    ⟨1, { transcript with remarks := transcript.remarks ++ ["Error: " ++ failure.message] }⟩

def ofEnding : Ending → Ended
  | .help verb => ⟨0, { output := Usage.help verb }⟩
  | .version => ⟨0, { output := [Usage.version] }⟩
  | .misuse problem => ⟨2, { remarks := ["error: " ++ problem.message] }⟩

end Ended

/-- Run the program with its arguments. Without any, it tells how it is called. -/
def run (timestamp : String) (arguments : List String) : m Ended := do
  if arguments.isEmpty then return ⟨2, { remarks := Usage.help none }⟩
  match Invocation.ofArguments arguments with
  | .error ending => return .ofEnding ending
  | .ok invocation => return .ofResult (← ((perform host timestamp invocation).run.run {}))

end TermBind.Command
