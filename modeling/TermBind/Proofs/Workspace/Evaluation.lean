import TermBind.Proofs.Incremental.Program
import TermBind.Workspace.Rules

/-! What the queries of a workspace give when they are run afresh. -/
namespace TermBind.Workspace

open Incremental

/-- What a scan outcome contributes, given how artifacts are generated. -/
def productBy (generate : Binding → Outcome Artifact) : Outcome ScannedBinding → Outcome Product
  | .failed diagnostics => .failed diagnostics
  | .ok scanned => productOf scanned (generate scanned.binding)

/-- The schema files of a workspace with their paths. -/
def schemaPaths (values : (f : Field) → f.Value) : List (FileId × Path) :=
  (values .schemas).map fun file => (file, values (.schemaPath file))

variable (values : (f : Field) → f.Value)

theorem run_indexProgram (results : (q : Query) → q.rank < 0 → q.Result) :
    indexProgram.run values results =
      .ofFiles (values .config).schema.extension (schemaPaths values) := by
  simp [indexProgram, field, Program.run, schemaPaths]

theorem run_joinProgram (binding : Binding) (results : (q : Query) → q.rank < 1 → q.Result) :
    (joinProgram binding).run values results =
      match (results .schemaIndex Nat.one_pos).find binding.documentKey with
      | .error diagnostic => .fail diagnostic
      | .ok file => joined binding (results (.loadSchema file) Nat.one_pos) := by
  simp only [joinProgram, result, Program.run_bind, Program.run]
  cases (results .schemaIndex Nat.one_pos).find binding.documentKey <;> rfl

theorem run_productProgram (outcome : Outcome ScannedBinding)
    (results : (q : Query) → q.rank < 3 → q.Result) :
    (productProgram outcome).run values results =
      productBy (fun binding => results (.generateBinding binding) (Nat.lt_succ_self 2)) outcome := by
  cases outcome <;> rfl

theorem run_pipelineProgram (results : (q : Query) → q.rank < 3 → q.Result) :
    pipelineProgram.run values results =
      .assemble (values .config).severity
        ((results .schemaIndex (Nat.succ_pos 2)).problems ++
          (results .schemaIndex (Nat.succ_pos 2)).documents.flatMap fun entry =>
            (results (.loadSchema entry.2) (Nat.succ_pos 2)).diagnostics)
        ((values .sources).flatMap fun file =>
          (results (.scanSource file) (Nat.succ_pos 2)).map
            (productBy fun binding => results (.generateBinding binding) (Nat.lt_succ_self 2))) := by
  simp [pipelineProgram, sourceProgram, field, result, Program.run, run_productProgram,
    List.flatMap_def, Function.comp_def]

variable [Wording]

/-- A document that cannot be read has one fault, in its file. -/
theorem documentOf_of_unreadable {text : String} (unreadable : Turtle.statements? text = none)
    (path : Path) : documentOf path text = .fail ((Diagnostic.of .schemaParseError
      [(Schema.documentKey? path).getD path.text, Wording.ofDocument text]).withLocation
        (.ofFile path.text)) := by
  rw [documentOf, Schema.load, unreadable]
  rfl

theorem eq_of_mem_documentOf {path : Path} {text : String} {diagnostic : Diagnostic}
    (member : diagnostic ∈ (documentOf path text).diagnostics) :
    diagnostic = (Diagnostic.of .schemaParseError
      [(Schema.documentKey? path).getD path.text, Wording.ofDocument text]).withLocation
        (.ofFile path.text) := by
  cases read : Turtle.statements? text with
  | none =>
    rw [documentOf_of_unreadable read] at member
    exact List.mem_singleton.mp member
  | some statements =>
    rw [documentOf, Schema.load, read] at member
    cases member

theorem evaluate_loadSchema (file : FileId) :
    rules.evaluate values (.loadSchema file) =
      documentOf (values (.schemaPath file)) (values (.schemaText file)) := by
  rw [Rules.evaluate]
  rfl

theorem evaluate_schemaIndex :
    rules.evaluate values .schemaIndex =
      .ofFiles (values .config).schema.extension (schemaPaths values) := by
  rw [Rules.evaluate]
  exact run_indexProgram values _

theorem evaluate_scanSource (file : FileId) :
    rules.evaluate values (.scanSource file) =
      scanOf (values .config) (values (.sourcePath file)) (values (.sourceText file)) := by
  rw [Rules.evaluate]
  rfl

theorem evaluate_joinBinding (binding : Binding) :
    rules.evaluate values (.joinBinding binding) =
      match (rules.evaluate values .schemaIndex).find binding.documentKey with
      | .error diagnostic => .fail diagnostic
      | .ok file => joined binding (rules.evaluate values (.loadSchema file)) := by
  rw [Rules.evaluate]
  exact run_joinProgram values binding fun asked _ => rules.evaluate values asked

theorem evaluate_generateBinding (binding : Binding) :
    rules.evaluate values (.generateBinding binding) =
      (rules.evaluate values (.joinBinding binding)).andThen
        (generated (values .config).output.artifactSuffix) := by
  rw [Rules.evaluate]
  rfl

theorem evaluate_pipeline :
    rules.evaluate values .pipeline =
      .assemble (values .config).severity
        ((rules.evaluate values .schemaIndex).problems ++
          (rules.evaluate values .schemaIndex).documents.flatMap fun entry =>
            (rules.evaluate values (.loadSchema entry.2)).diagnostics)
        ((values .sources).flatMap fun file => (rules.evaluate values (.scanSource file)).map
          (productBy fun binding => rules.evaluate values (.generateBinding binding))) := by
  rw [Rules.evaluate]
  exact run_pipelineProgram values fun asked _ => rules.evaluate values asked

end TermBind.Workspace
