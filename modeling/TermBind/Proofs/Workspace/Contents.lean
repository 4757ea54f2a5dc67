import TermBind.Proofs.Collection.Ascending
import TermBind.Proofs.Workspace.Evaluation

/-! The contents of a workspace, and what an evaluation makes of them. Files are known by path and
text here, not by the numbers under which a session keeps them. -/
namespace TermBind.Workspace

open Incremental

/-- The key under which a file with the extension is found. -/
def keyOf? (extension : String) (path : Path) : Option String :=
  if Schema.isSchemaFile path extension then Schema.documentKey? path else none

/-- The settings and the files of a workspace. -/
structure Contents where
  config : Config
  sources : List (Path × String)
  schemas : List (Path × String)

namespace Contents

def ofValues (values : (f : Field) → f.Value) : Contents where
  config := values .config
  sources := (values .sources).map fun file =>
    (values (.sourcePath file), values (.sourceText file))
  schemas := (values .schemas).map fun file =>
    (values (.schemaPath file), values (.schemaText file))

variable [Wording] (contents : Contents)

/-- The schema files that provide a key. -/
def providers (key : String) : List (Path × String) :=
  contents.schemas.filter fun file => keyOf? contents.config.schema.extension file.1 == some key

/-- Every key that a schema file provides, ascending. -/
def keys : List String :=
  Collection.ascending <|
    contents.schemas.filterMap fun file => keyOf? contents.config.schema.extension file.1

/-- A key that several files provide is reported with their paths. -/
def duplicateKey (key : String) (files : List (Path × String)) : Diagnostic :=
  Diagnostic.of .duplicateSchemaKey
    [key, ", ".intercalate ((Collection.sortOn id (files.map Prod.fst)).map Path.text)]

def clash? (key : String) : List (Path × String) → Option Diagnostic
  | [_] => none
  | files => some (duplicateKey key files)

/-- What is wrong with a document that alone provides its key. -/
def faults : List (Path × String) → List Diagnostic
  | [file] => (documentOf file.1 file.2).diagnostics
  | _ => []

def keyProblems : List Diagnostic :=
  contents.keys.filterMap fun key => clash? key (contents.providers key)

def loadProblems : List Diagnostic :=
  contents.keys.flatMap fun key => faults (contents.providers key)

/-- A binding with the document that it names: the one file that provides the key. -/
def join (binding : Binding) : Outcome JoinedUnit :=
  match contents.providers binding.documentKey with
  | [] => .fail (.of .unresolvedSchemaReference [binding.documentKey])
  | [file] => joined binding (documentOf file.1 file.2)
  | _ => .fail (.of .ambiguousSchemaReference [binding.documentKey])

def generate (binding : Binding) : Outcome Artifact :=
  (contents.join binding).andThen (generated contents.config.output.artifactSuffix)

/-- What comes of every annotated declaration, file by file. -/
def scanned : List (Outcome ScannedBinding) :=
  contents.sources.flatMap fun file => scanOf contents.config file.1 file.2

def output : Output :=
  .assemble contents.config.severity (contents.keyProblems ++ contents.loadProblems)
    (contents.scanned.map (productBy contents.generate))

end Contents

namespace SchemaIndex

variable (extension : String) (files : List (FileId × Path))

/-- The files with the extension that have a key. -/
def holders (key : String) : List (FileId × Path) :=
  files.filter fun file => keyOf? extension file.2 == some key

def keys : List String :=
  Collection.ascending (files.filterMap fun file => keyOf? extension file.2)

theorem keyed_eq :
    keyed extension files = (keys extension files).map fun key => (key, holders extension files key) := by
  unfold keys holders
  rw [← Collection.groups_filterMap, keyed]
  congr 2
  funext file
  unfold keyOf?
  split <;> rfl

theorem mem_keys {key : String} : key ∈ keys extension files ↔ holders extension files key ≠ [] := by
  rw [keys, Collection.mem_ascending, holders, ne_eq, List.filter_eq_nil_iff]
  simp [List.mem_filterMap]

/-- The file that a key stands for, if just one file has it. -/
def sole? (key : String) : Option FileId :=
  match holders extension files key with
  | [file] => some file.1
  | _ => none

theorem holders_of_sole? {extension : String} {files : List (FileId × Path)} {key : String}
    {file : FileId} (found : sole? extension files key = some file) :
    ∃ path, holders extension files key = [(file, path)] := by
  unfold sole? at found
  split at found
  · rename_i entry held
    cases found
    exact ⟨entry.2, held⟩
  · cases found

theorem sole?_eq_some {extension : String} {files : List (FileId × Path)} {key : String}
    {file : FileId} :
    sole? extension files key = some file ↔ ∃ path, holders extension files key = [(file, path)] := by
  refine ⟨holders_of_sole?, ?_⟩
  rintro ⟨path, held⟩
  rw [sole?, held]

/-- The paths of the files that a key cannot tell apart. -/
def clashing? (key : String) : Option (List Path) :=
  match holders extension files key with
  | [_] => none
  | clashing => some (Collection.sortOn id (clashing.map Prod.snd))

theorem documents_ofFiles :
    (ofFiles extension files).documents = (keys extension files).filterMap fun key =>
      (sole? extension files key).map fun file => (key, file) := by
  change (keyed extension files).filterMap document? = _
  rw [keyed_eq, List.filterMap_map]
  congr 1
  funext key
  simp only [Function.comp_apply, document?, sole?]
  rcases holders extension files key with _ | ⟨file, _ | _⟩ <;> rfl

theorem duplicates_ofFiles :
    (ofFiles extension files).duplicates = (keys extension files).filterMap fun key =>
      (clashing? extension files key).map fun paths => (key, paths) := by
  change (keyed extension files).filterMap duplicate? = _
  rw [keyed_eq, List.filterMap_map]
  congr 1
  funext key
  simp only [Function.comp_apply, duplicate?, clashing?]
  rcases holders extension files key with _ | ⟨file, _ | _⟩ <;> rfl

theorem find_ofFiles (key : String) :
    (ofFiles extension files).find key =
      match holders extension files key with
      | [] => .error (.of .unresolvedSchemaReference [key])
      | [file] => .ok file.1
      | _ => .error (.of .ambiguousSchemaReference [key]) := by
  rw [find, documents_ofFiles, duplicates_ofFiles, Collection.lookup_filterMap,
    Collection.lookup_filterMap]
  by_cases member : key ∈ keys extension files
  · have held := (mem_keys extension files).mp member
    simp only [member, if_true, sole?, clashing?]
    split <;> simp_all
  · have none := mt (mem_keys extension files).mpr member
    simp only [ne_eq, Decidable.not_not] at none
    simp [member, none]

/-- The documents are the files that alone have their keys. -/
theorem mem_documents_ofFiles {key : String} {file : FileId} :
    (key, file) ∈ (ofFiles extension files).documents ↔ sole? extension files key = some file := by
  rw [documents_ofFiles, List.mem_filterMap]
  constructor
  · rintro ⟨other, _, found⟩
    obtain ⟨_, sole, same⟩ := Option.map_eq_some_iff.mp found
    cases same
    exact sole
  · intro sole
    obtain ⟨path, held⟩ := holders_of_sole? sole
    refine ⟨key, (mem_keys extension files).mpr ?_, by rw [sole]; rfl⟩
    simp [held]

theorem find_eq_ok_iff {key : String} {file : FileId} :
    (ofFiles extension files).find key = .ok file ↔ sole? extension files key = some file := by
  rw [find_ofFiles, sole?]
  rcases holders extension files key with _ | ⟨entry, _ | _⟩ <;> simp

theorem mem_documents_of_find {index : SchemaIndex} {key : String} {file : FileId}
    (found : index.find key = .ok file) : (key, file) ∈ index.documents := by
  unfold find at found
  split at found
  · cases found
  split at found
  · rename_i listed
    cases found
    obtain ⟨before, after, same, _⟩ := List.lookup_eq_some_iff.mp listed
    simp [same]
  · cases found

end SchemaIndex

namespace Contents

variable (values : (f : Field) → f.Value)

theorem providers_ofValues (key : String) :
    (ofValues values).providers key =
      (SchemaIndex.holders (values .config).schema.extension (schemaPaths values) key).map
        fun file => (file.2, values (.schemaText file.1)) := by
  simp [providers, ofValues, SchemaIndex.holders, schemaPaths, List.filter_map, Function.comp_def]

theorem keys_ofValues :
    (ofValues values).keys =
      SchemaIndex.keys (values .config).schema.extension (schemaPaths values) := by
  simp only [keys, ofValues, SchemaIndex.keys, schemaPaths, List.filterMap_map]
  rfl

/-- The one file that has a key is found with its path. -/
theorem path_of_holders {extension key : String} {file : FileId × Path}
    (held : SchemaIndex.holders extension (schemaPaths values) key = [file]) :
    file.2 = values (.schemaPath file.1) := by
  have member : file ∈ SchemaIndex.holders extension (schemaPaths values) key := by simp [held]
  have listed := (List.mem_filter.mp member).1
  obtain ⟨number, _, rfl⟩ := List.mem_map.mp listed
  rfl

variable [Wording]

theorem evaluate_joinBinding_eq (binding : Binding) :
    rules.evaluate values (.joinBinding binding) = (ofValues values).join binding := by
  rw [evaluate_joinBinding, evaluate_schemaIndex, SchemaIndex.find_ofFiles, join,
    providers_ofValues]
  cases held : SchemaIndex.holders (values .config).schema.extension (schemaPaths values)
      binding.documentKey with
  | nil => rfl
  | cons file rest =>
    cases rest with
    | nil =>
      have path := path_of_holders values held
      simp only [List.map_cons, List.map_nil, evaluate_loadSchema, path]
    | cons => rfl

theorem evaluate_generateBinding_eq (binding : Binding) :
    rules.evaluate values (.generateBinding binding) = (ofValues values).generate binding := by
  rw [evaluate_generateBinding, evaluate_joinBinding_eq]
  rfl

theorem problems_ofValues :
    (rules.evaluate values .schemaIndex).problems = (ofValues values).keyProblems := by
  rw [evaluate_schemaIndex, SchemaIndex.problems, SchemaIndex.duplicates_ofFiles, keyProblems,
    keys_ofValues, List.map_filterMap]
  congr 1
  funext key
  rw [providers_ofValues, SchemaIndex.clashing?]
  cases SchemaIndex.holders (values .config).schema.extension (schemaPaths values) key with
  | nil => rfl
  | cons file rest =>
    cases rest with
    | nil => rfl
    | cons => simp [clash?, duplicateKey, Function.comp_def]

theorem loadProblems_ofValues :
    ((rules.evaluate values .schemaIndex).documents.flatMap fun entry =>
      (rules.evaluate values (.loadSchema entry.2)).diagnostics) =
      (ofValues values).loadProblems := by
  rw [evaluate_schemaIndex, SchemaIndex.documents_ofFiles, loadProblems, keys_ofValues,
    Collection.flatMap_filterMap]
  congr 1
  funext key
  rw [providers_ofValues, SchemaIndex.sole?]
  cases held : SchemaIndex.holders (values .config).schema.extension (schemaPaths values) key with
  | nil => rfl
  | cons file rest =>
    cases rest with
    | nil =>
      have path := path_of_holders values held
      simp [faults, evaluate_loadSchema, path]
    | cons => rfl

theorem scanned_ofValues :
    (ofValues values).scanned =
      (values .sources).flatMap fun file => rules.evaluate values (.scanSource file) := by
  simp [scanned, ofValues, List.flatMap_map, evaluate_scanSource]

theorem evaluate_pipeline_eq :
    rules.evaluate values .pipeline = (ofValues values).output := by
  have generated : (fun binding => rules.evaluate values (.generateBinding binding)) =
      (ofValues values).generate := by
    funext binding
    exact evaluate_generateBinding_eq values binding
  rw [evaluate_pipeline, problems_ofValues, loadProblems_ofValues, generated, output,
    scanned_ofValues, List.map_flatMap]
  rfl

end Contents
end TermBind.Workspace
