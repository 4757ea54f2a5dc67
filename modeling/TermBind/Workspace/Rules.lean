import TermBind.Scan.File
import TermBind.Schema
import TermBind.Workspace.Query

/-! What each query of a workspace does. -/
namespace TermBind.Workspace

open Incremental

namespace SchemaIndex

/-- The files with the extension by their keys. -/
def keyed (extension : String) (files : List (FileId × Path)) : List (String × List (FileId × Path)) :=
  Collection.groups <| files.filterMap fun file =>
    if Schema.isSchemaFile file.2 extension then (Schema.documentKey? file.2).map fun key => (key, file)
    else none

def document? (group : String × List (FileId × Path)) : Option (String × FileId) :=
  match group.2 with
  | [file] => some (group.1, file.1)
  | _ => none

def duplicate? (group : String × List (FileId × Path)) : Option (String × List Path) :=
  match group.2 with
  | [_] => none
  | files => some (group.1, Collection.sortOn id (files.map Prod.snd))

def ofFiles (extension : String) (files : List (FileId × Path)) : SchemaIndex where
  documents := (keyed extension files).filterMap document?
  duplicates := (keyed extension files).filterMap duplicate?

def samePaths : List Path → List Path → Bool
  | [], [] => true
  | left :: lefts, right :: rights => left.same right && samePaths lefts rights
  | _, _ => false

def sameDuplicates : List (String × List Path) → List (String × List Path) → Bool
  | [], [] => true
  | left :: lefts, right :: rights =>
    left.1 == right.1 && samePaths left.2 right.2 && sameDuplicates lefts rights
  | _, _ => false

/-- Paths count as the same when they name the same place. -/
def same (left right : SchemaIndex) : Bool :=
  left.documents == right.documents && sameDuplicates left.duplicates right.duplicates

def problems (index : SchemaIndex) : List Diagnostic :=
  index.duplicates.map fun entry =>
    Diagnostic.of .duplicateSchemaKey [entry.1, ", ".intercalate (entry.2.map Path.text)]

end SchemaIndex

variable [Wording]

/-- A document under the name of its file, or under its path if that names no file. -/
def documentOf (path : Path) (text : String) : Outcome Document :=
  (Schema.load text ((Schema.documentKey? path).getD path.text)).mapDiagnostics
    (·.withLocationIfAbsent (.ofFile path.text))

/-- The source root as files are written: relative to the project unless the file is absolute. -/
def sourceRootFor (config : Config) (path : Path) : Path :=
  if path.isAbsolute then config.resolve config.binding.sourceRoot else config.binding.sourceRoot

def scanOf (config : Config) (path : Path) (text : String) : List (Outcome ScannedBinding) :=
  Scan.uninterrupted <|
    Scan.file (pure ()) config.binding.annotationName path text (sourceRootFor config path)

/-- The file that a key stands for, or why there is none. -/
def SchemaIndex.find (index : SchemaIndex) (key : String) : Except Diagnostic FileId :=
  if (index.duplicates.lookup key).isSome then .error (.of .ambiguousSchemaReference [key])
  else
    match index.documents.lookup key with
    | some file => .ok file
    | none => .error (.of .unresolvedSchemaReference [key])

/-- A document that did not load leaves the request unresolved; its own faults are reported once. -/
def joined (binding : Binding) : Outcome Document → Outcome JoinedUnit
  | .ok schema => .ok { binding, schema }
  | .failed _ => .fail (.of .unresolvedSchemaReference [binding.documentKey])

def generated (artifactSuffix : String) (unit : JoinedUnit) : Outcome Artifact :=
  (Artifact.generate unit.binding unit.schema).map fun text =>
    { name := Artifact.nameFor unit.binding artifactSuffix, text, binding := unit.binding }

/-- What a scanned declaration contributes, given what was generated for it. -/
def productOf (scanned : ScannedBinding) (artifact : Outcome Artifact) : Outcome Product :=
  (artifact.map fun artifact => { artifact, location := scanned.location }).mapDiagnostics
    (·.locatedAt scanned.location)

abbrev Step (bound : Nat) := Program signature bound

def field {bound : Nat} (field : Field) : Step bound field.Value :=
  .read field .done

def result {bound : Nat} (query : Query)
    (lower : query.rank < bound := by exact Nat.le_of_ble_eq_true rfl) : Step bound query.Result :=
  .ask query lower .done

def loadProgram (file : FileId) : Step 0 (Outcome Document) := do
  return documentOf (← field (.schemaPath file)) (← field (.schemaText file))

def indexProgram : Step 0 SchemaIndex := do
  let config ← field .config
  let files ← (← field .schemas).mapM fun file => do return (file, ← field (.schemaPath file))
  return .ofFiles config.schema.extension files

def scanProgram (file : FileId) : Step 0 (List (Outcome ScannedBinding)) := do
  let config ← field .config
  return scanOf config (← field (.sourcePath file)) (← field (.sourceText file))

def joinProgram (binding : Binding) : Step 1 (Outcome JoinedUnit) := do
  let index ← result .schemaIndex
  match index.find binding.documentKey with
  | .error diagnostic => return .fail diagnostic
  | .ok file => return joined binding (← result (.loadSchema file))

def generateProgram (binding : Binding) : Step 2 (Outcome Artifact) := do
  let config ← field .config
  let unit ← result (.joinBinding binding)
  return unit.andThen (generated config.output.artifactSuffix)

def productProgram : Outcome ScannedBinding → Step 3 (Outcome Product)
  | .failed diagnostics => return .failed diagnostics
  | .ok scanned => return productOf scanned (← result (.generateBinding scanned.binding))

def sourceProgram (file : FileId) : Step 3 (List (Outcome Product)) := do
  (← result (.scanSource file)).mapM productProgram

def pipelineProgram : Step 3 Output := do
  let index ← result .schemaIndex
  let documents ← index.documents.mapM fun entry => result (.loadSchema entry.2)
  let products ← (← field .sources).mapM sourceProgram
  let config ← field .config
  return .assemble config.severity (index.problems ++ documents.flatMap Outcome.diagnostics)
    products.flatten

/-- The program of every query; results are compared by value. -/
def rules : Rules signature where
  program
    | .loadSchema file => loadProgram file
    | .schemaIndex => indexProgram
    | .scanSource file => scanProgram file
    | .joinBinding binding => joinProgram binding
    | .generateBinding binding => generateProgram binding
    | .pipeline => pipelineProgram
  same
    | .loadSchema _, left, right => left == right
    | .schemaIndex, left, right => SchemaIndex.same left right
    | .scanSource _, left, right => left == right
    | .joinBinding _, left, right => left == right
    | .generateBinding _, left, right => left == right
    | .pipeline, left, right => left == right

end TermBind.Workspace
