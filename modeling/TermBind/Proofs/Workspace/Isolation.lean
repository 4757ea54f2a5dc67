import TermBind.Proofs.Workspace.Accounting
import TermBind.Proofs.Workspace.Faults

/-! One source file more in a workspace. Whether or not it can be read, it changes nothing but what
becomes of the names that it produces, and adds what is reported of it alone. -/
namespace TermBind.Workspace.Session

open Incremental

variable [Wording]

/-- What comes of the declarations of a source file: a product, or what is reported of it. -/
def outcomesOf (session : Session) (file : FileId) : List (Outcome Product) :=
  (session.fetch (.scanSource file)).1.map session.produced

/-- A file of a workspace that was opened is scanned on its own. -/
theorem scan_ofFiles (config : Config) {sources : List (Path × String)} (schemas : List (Path × String))
    {file : FileId} {path : Path} {text : String} (listed : sources[file]? = some (path, text)) :
    ((ofFiles config sources schemas).fetch (.scanSource file)).1 = scanOf config path text := by
  let session := ofFiles config sources schemas
  have unasked := unasked_ofFiles config sources schemas
  have made := (made_ofFiles config sources schemas).1
  have own : session.sourceFile file = (path, text) := by
    rw [← made, madeSources, List.getElem?_map] at listed
    obtain ⟨counted, known, found⟩ := Option.map_eq_some_iff.mp listed
    obtain ⟨_, rfl⟩ := List.getElem?_eq_some_iff.mp known
    rwa [List.getElem_range] at found
  have called : session.value (.sourcePath file) = path := congrArg Prod.fst own
  have written : session.value (.sourceText file) = text := congrArg Prod.snd own
  rw [unasked.fetch, evaluate_scanSource, ← called, ← written]
  rfl

section Files

variable (config : Config) (left right schemas : List (Path × String)) (file : Path × String)

/-- A declaration comes to what the settings and the schema files say; no other source file has a
part in it. -/
theorem outcomesOf_ofFiles :
    (ofFiles config (left ++ file :: right) schemas).outcomesOf left.length =
      Contents.outcomesOf { config, sources := [], schemas } file := by
  have unasked := unasked_ofFiles config (left ++ file :: right) schemas
  have listed : (left ++ file :: right)[left.length]? = some (file.1, file.2) := by simp
  rw [outcomesOf, scan_ofFiles config schemas listed, ← unasked.plain.produced_eq, contents_ofFiles]
  rfl

variable (sources : List (Path × String))

theorem products_ofFiles :
    (ofFiles config sources schemas).products =
      (sources.flatMap (Contents.outcomesOf { config, sources := [], schemas })).filterMap
        Outcome.value? := by
  have plain := (unasked_ofFiles config sources schemas).plain
  rw [products, ← plain.scanned_eq, ← plain.produced_eq, contents_ofFiles, Contents.scanned,
    List.map_flatMap]
  rfl

theorem pipeline_ofFiles_eq_assemble :
    ((ofFiles config sources schemas).fetch .pipeline).1 =
      .assemble config.severity
        (Contents.keyProblems { config, sources := [], schemas } ++
          Contents.loadProblems { config, sources := [], schemas })
        (sources.flatMap (Contents.outcomesOf { config, sources := [], schemas })) := by
  rw [pipeline_ofFiles, Contents.output_eq]
  rfl

end Files

/-- A source file keeps to itself in a workspace, compared with the workspace without it and with one
of that file alone. -/
structure Isolated (without within alone : Session) (file : FileId) : Prop where
  unaided : within.outcomesOf file = alone.outcomesOf 0
  others : ∀ name ∉ Output.ownNames (within.outcomesOf file), ∀ artifact,
    (name, artifact) ∈ (within.fetch .pipeline).1.artifacts ↔
      (name, artifact) ∈ (without.fetch .pipeline).1.artifacts
  own : ∀ name ∈ Output.ownNames (within.outcomesOf file), ∀ artifact,
    (name, artifact) ∈ (within.fetch .pipeline).1.artifacts ↔
      (∃ location, Output.producers ((within.outcomesOf file).filterMap Outcome.value?) name =
        [⟨artifact, location⟩]) ∧ Output.producers without.products name = []
  diagnostics :
    ((within.fetch .pipeline).1.diagnostics.filter
      (!Output.contends (Output.ownNames (within.outcomesOf file)) ·)).Perm
    ((without.fetch .pipeline).1.diagnostics.filter
      (!Output.contends (Output.ownNames (within.outcomesOf file)) ·) ++
      ((within.outcomesOf file).flatMap Outcome.diagnostics).map
        (within.value .config).severity.apply)

/-- Another source file leaves the artifacts and the reports of a workspace as they are, but for the
names that it produces. -/
theorem isolated_ofFiles (config : Config) (left right schemas : List (Path × String))
    (file : Path × String) :
    Isolated (ofFiles config (left ++ right) schemas) (ofFiles config (left ++ file :: right) schemas)
      (ofFiles config [file] schemas) left.length := by
  have own := outcomesOf_ofFiles config left right schemas file
  have alone := outcomesOf_ofFiles config [] [] schemas file
  let outcomes := Contents.outcomesOf { config, sources := [], schemas }
  have added : ((left ++ file :: right).flatMap outcomes).Perm
      ((left ++ right).flatMap outcomes ++ outcomes file) := by
    rw [List.flatMap_append, List.flatMap_cons, List.flatMap_append, List.append_assoc]
    exact List.perm_append_comm.append_left _
  refine ⟨own.trans alone.symm, ?others, ?own, ?diagnostics⟩
  all_goals rw [own, pipeline_ofFiles_eq_assemble]
  case others =>
    intro name foreign artifact
    rw [pipeline_ofFiles_eq_assemble]
    exact Output.mem_artifacts_unrelated added _ _ foreign
  case own =>
    intro name produced artifact
    rw [products_ofFiles]
    exact Output.mem_artifacts_own added _ _ produced
  case diagnostics =>
    rw [pipeline_ofFiles_eq_assemble]
    refine Output.filter_diagnostics_added added _ _ fun outcome listed diagnostic reported => ?_
    have known := Contents.code_outcomesOf _ file outcome listed diagnostic reported
    intro same
    rw [same] at known
    exact absurd known (by decide)

end TermBind.Workspace.Session
