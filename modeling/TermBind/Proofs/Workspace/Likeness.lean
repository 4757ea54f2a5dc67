import TermBind.Proofs.Incremental.Replay
import TermBind.Proofs.Workspace.IndexEquality

/-! What the queries of a workspace cannot tell apart. Indexes that count as the same differ at most
in how paths are written, and only the output of the workspace shows that. -/
namespace TermBind.Workspace

open Incremental

/-- Results that differ at most in the spelling of paths. If no place is written in two ways among
the paths, they are equal. -/
def Query.Alike (paths : List Path) : (q : Query) → q.Result → q.Result → Prop
  | .schemaIndex, left, right => left.same right = true ∧ (Path.SpelledAlike paths → left = right)
  | .pipeline, left, right => Path.SpelledAlike paths → left = right
  | .loadSchema _, left, right => left = right
  | .scanSource _, left, right => left = right
  | .joinBinding _, left, right => left = right
  | .generateBinding _, left, right => left = right

variable {paths : List Path}

theorem Query.Alike.eq (alike : Path.SpelledAlike paths) {q : Query} {left right : q.Result}
    (same : q.Alike paths left right) : left = right := by
  cases q with
  | schemaIndex => exact same.2 alike
  | pipeline => exact same alike
  | _ => exact same

theorem Query.equivalence_alike (q : Query) : Equivalence (q.Alike paths) := by
  cases q with
  | schemaIndex =>
    refine ⟨fun index => ?_, ?_, ?_⟩
    · exact ⟨SchemaIndex.same_iff.mpr ⟨rfl, rfl⟩, fun _ => rfl⟩
    · rintro left right ⟨same, equal⟩
      obtain ⟨documents, duplicates⟩ := SchemaIndex.same_iff.mp same
      exact ⟨SchemaIndex.same_iff.mpr ⟨documents.symm, duplicates.symm⟩,
        fun alike => (equal alike).symm⟩
    · rintro left middle right ⟨same, equal⟩ ⟨same', equal'⟩
      obtain ⟨documents, duplicates⟩ := SchemaIndex.same_iff.mp same
      obtain ⟨documents', duplicates'⟩ := SchemaIndex.same_iff.mp same'
      exact ⟨SchemaIndex.same_iff.mpr ⟨documents.trans documents', duplicates.trans duplicates'⟩,
        fun alike => (equal alike).trans (equal' alike)⟩
  | pipeline =>
    exact ⟨fun _ _ => rfl, fun same alike => (same alike).symm,
      fun same same' alike => (same alike).trans (same' alike)⟩
  | _ => exact ⟨fun _ => rfl, Eq.symm, Eq.trans⟩

theorem similar_joinProgram (binding : Binding) :
    (joinProgram binding).Similar (Query.Alike paths) Eq (joinProgram binding) := by
  apply Program.Similar.ask
  rintro index index' ⟨same, _⟩
  simp only [Program.andThen]
  rw [SchemaIndex.find_eq_of_same same]
  cases index'.find binding.documentKey with
  | error diagnostic => exact .done rfl
  | ok file =>
    apply Program.Similar.ask
    rintro document _ rfl
    exact .done rfl

theorem similar_generateProgram (binding : Binding) :
    (generateProgram binding).Similar (Query.Alike paths) Eq (generateProgram binding) := by
  refine .read fun config => .ask ?_
  rintro unit _ rfl
  exact .done rfl

theorem similar_productProgram (outcome : Outcome ScannedBinding) :
    (productProgram outcome).Similar (Query.Alike paths) Eq (productProgram outcome) := by
  cases outcome with
  | failed diagnostics => exact .done rfl
  | ok scanned =>
    apply Program.Similar.ask
    rintro artifact _ rfl
    exact .done rfl

theorem similar_sourceProgram (file : FileId) :
    (sourceProgram file).Similar (Query.Alike paths) Eq (sourceProgram file) := by
  apply Program.Similar.ask
  rintro outcomes _ rfl
  exact .mapM fun outcome _ => similar_productProgram outcome

/-- The output shows the index only in what is reported of contested keys. -/
theorem similar_pipelineProgram :
    pipelineProgram.Similar (Query.Alike paths) (Query.Alike paths .pipeline) pipelineProgram := by
  apply Program.Similar.ask
  rintro index index' ⟨same, equal⟩
  obtain ⟨documents, _⟩ := SchemaIndex.same_iff.mp same
  change Program.Similar _ _ (index.documents.mapM _ >>= _) (index'.documents.mapM _ >>= _)
  rw [documents]
  have loaded : ∀ entry ∈ index'.documents,
      (result (.loadSchema entry.2) : Step 3 (Outcome Document)).Similar (Query.Alike paths) Eq
        (result (.loadSchema entry.2)) := by
    intro entry _
    apply Program.Similar.ask
    rintro document _ rfl
    exact .done rfl
  apply Program.Similar.bind (.mapM loaded)
  rintro loads _ rfl
  refine .read fun files => ?_
  apply Program.Similar.bind (.mapM fun file _ => similar_sourceProgram file)
  rintro products _ rfl
  refine .read fun config => .done fun alike => ?_
  rw [equal alike]

/-- Every query comes to like results by like answers. -/
theorem Query.similar [Wording] (q : Query) :
    (rules.program q).Similar (Query.Alike paths) (q.Alike paths) (rules.program q) := by
  cases q with
  | loadSchema file => exact .of_zero (loadProgram file)
  | schemaIndex =>
    apply Program.Similar.imp (.of_zero indexProgram)
    rintro index _ rfl
    exact (Query.equivalence_alike .schemaIndex).refl index
  | scanSource file => exact .of_zero (scanProgram file)
  | joinBinding binding => exact similar_joinProgram binding
  | generateBinding binding => exact similar_generateProgram binding
  | pipeline => exact similar_pipelineProgram

end TermBind.Workspace
