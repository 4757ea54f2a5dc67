import TermBind.Proofs.Workspace.History

/-! Joining requests with documents. A key stands for a document if just one schema file is called by it;
what was asked and edited before does not matter. -/
namespace TermBind

/-- The extension of a path is one that is wanted, in any case. It stands after the last dot of the file
name; dots in front of the one wanted do not count. -/
def Path.HasExtension (path : Path) (wanted : String) : Prop :=
  ∃ found ∈ path.extension?,
    found.toList.map Char.toLower = (wanted.toList.dropWhile (· == '.')).map Char.toLower

theorem Schema.isSchemaFile_iff {path : Path} {wanted : String} :
    isSchemaFile path wanted = true ↔ path.HasExtension wanted := by
  simp only [isSchemaFile, Path.HasExtension, lower, Option.any_eq_true, beq_iff_eq,
    String.ofList_inj, String.toList_ofList, Option.mem_def]

instance (path : Path) (wanted : String) : Decidable (path.HasExtension wanted) :=
  decidable_of_iff _ Schema.isSchemaFile_iff

/-- A document is called by the key under which it is loaded. -/
theorem Schema.key_of_load [Wording] {text key : String} {schema : Document}
    (loaded : load text key = .ok schema) : schema.key = key := by
  unfold load at loaded
  split at loaded
  · cases loaded
    rfl
  · cases loaded

namespace Workspace.Session

variable {session : Session}

/-- The schema files with the extension that are called by a key. -/
def called (session : Session) (key : String) : List (Path × String) :=
  session.contents.schemas.filter fun file =>
    file.1.fileName? = some key ∧ file.1.HasExtension session.contents.config.schema.extension

theorem providers_eq (session : Session) (key : String) :
    session.contents.providers key = session.called key := by
  refine List.filter_congr fun file _ => ?_
  rw [Bool.eq_iff_iff, decide_eq_true_iff, ← Schema.isSchemaFile_iff, keyOf?, beq_iff_eq]
  split
  · rename_i wanted
    simp [wanted, Schema.documentKey?]
  · rename_i other
    simp [other]

theorem fileName?_of_mem_called {key : String} {file : Path × String}
    (member : file ∈ session.called key) : file.1.fileName? = some key :=
  (decide_eq_true_iff.mp (List.mem_filter.mp member).2).1

variable [Wording]

/-- What becomes of a request for a document: it is joined with the one that has the key for a name, or
fails with the key. What fails here makes no artifact. -/
structure Joins (session : Session) (binding : Binding) : Prop where
  ambiguous : (session.fetch (.joinBinding binding)).1 =
      .fail (.of .ambiguousSchemaReference [binding.documentKey]) ↔
    2 ≤ (session.called binding.documentKey).length
  unresolved : (session.fetch (.joinBinding binding)).1 =
      .fail (.of .unresolvedSchemaReference [binding.documentKey]) ↔
    session.called binding.documentKey = [] ∨ ∃ file, session.called binding.documentKey = [file] ∧
      ∃ diagnostics, Schema.load file.2 binding.documentKey = .failed diagnostics
  joined unit : (session.fetch (.joinBinding binding)).1 = .ok unit ↔
    unit.binding = binding ∧ unit.schema.key = binding.documentKey ∧
      ∃ file, session.called binding.documentKey = [file] ∧
        Schema.load file.2 binding.documentKey = .ok unit.schema
  decided diagnostics : (session.fetch (.joinBinding binding)).1 = .failed diagnostics →
    diagnostics.toList = [.of .ambiguousSchemaReference [binding.documentKey]] ∨
      diagnostics.toList = [.of .unresolvedSchemaReference [binding.documentKey]]
  generated diagnostics : (session.fetch (.joinBinding binding)).1 = .failed diagnostics →
    (session.fetch (.generateBinding binding)).1 = .failed diagnostics

theorem Justified.join_eq {paths : List Path} (justified : session.Justified paths) (binding : Binding) :
    (session.fetch (.joinBinding binding)).1 = session.contents.join binding := by
  have named : (session.extent paths).HasQuery (.joinBinding binding) := trivial
  have answered : (session.fetch (.joinBinding binding)).1 =
      rules.evaluate session.store.values (.joinBinding binding) := justified.fetch_alike named
  rw [answered, Contents.evaluate_joinBinding_eq]
  rfl

theorem Justified.generate_eq {paths : List Path} (justified : session.Justified paths)
    (binding : Binding) : (session.fetch (.generateBinding binding)).1 =
      (session.fetch (.joinBinding binding)).1.andThen
        (generated session.contents.config.output.artifactSuffix) := by
  have named : (session.extent paths).HasQuery (.generateBinding binding) := trivial
  have answered : (session.fetch (.generateBinding binding)).1 =
      rules.evaluate session.store.values (.generateBinding binding) := justified.fetch_alike named
  rw [answered, Contents.evaluate_generateBinding_eq, justified.join_eq]
  rfl

/-- What is wrong with a document is reported elsewhere: here it counts only whether it loads. -/
theorem joined_documentOf (binding : Binding) {path : Path}
    (named : path.fileName? = some binding.documentKey) (text : String) :
    joined binding (documentOf path text) = joined binding (Schema.load text binding.documentKey) := by
  rw [documentOf, Schema.documentKey?, named, Option.getD_some]
  cases Schema.load text binding.documentKey <;> rfl

omit [Wording] in
theorem ambiguous_ne_unresolved (key : String) :
    (.fail (.of .ambiguousSchemaReference [key]) : Outcome JoinedUnit) ≠
      .fail (.of .unresolvedSchemaReference [key]) := by
  simp [Outcome.fail, Diagnostic.of]

section Cases

variable {binding : Binding}

theorem join_eq_of_none (none : session.called binding.documentKey = []) :
    session.contents.join binding = .fail (.of .unresolvedSchemaReference [binding.documentKey]) := by
  rw [Contents.join, providers_eq, none]

theorem join_eq_of_one {file : Path × String} (alone : session.called binding.documentKey = [file]) :
    session.contents.join binding = joined binding (Schema.load file.2 binding.documentKey) := by
  have member : file ∈ session.called binding.documentKey := by simp [alone]
  rw [Contents.join, providers_eq, alone]
  exact joined_documentOf binding (fileName?_of_mem_called member) file.2

theorem join_eq_of_several {first second : Path × String} {others : List (Path × String)}
    (several : session.called binding.documentKey = first :: second :: others) :
    session.contents.join binding = .fail (.of .ambiguousSchemaReference [binding.documentKey]) := by
  rw [Contents.join, providers_eq, several]

end Cases

/-- The cases are those of how many files are called by the key. -/
theorem Justified.joins {paths : List Path} (justified : session.Justified paths) (binding : Binding) :
    session.Joins binding := by
  have join := justified.join_eq binding
  have generated : ∀ diagnostics, (session.fetch (.joinBinding binding)).1 = .failed diagnostics →
      (session.fetch (.generateBinding binding)).1 = .failed diagnostics := by
    intro diagnostics failed
    rw [justified.generate_eq, failed]
    rfl
  have apart := ambiguous_ne_unresolved binding.documentKey
  match called : session.called binding.documentKey with
  | [] =>
    rw [join_eq_of_none called] at join
    exact {
      ambiguous := by simp [join, called, apart.symm]
      unresolved := by simp [join, called]
      joined := by simp [join, called, Outcome.fail]
      decided := by
        rintro diagnostics failed
        cases join.symm.trans failed
        exact .inr rfl
      generated }
  | [file] =>
    rw [join_eq_of_one called] at join
    cases loaded : Schema.load file.2 binding.documentKey with
    | ok schema =>
      rw [loaded] at join
      exact {
        ambiguous := by simp [join, called, Workspace.joined, Outcome.fail]
        unresolved := by simp [join, called, loaded, Workspace.joined, Outcome.fail]
        joined := by
          intro unit
          rw [join]
          constructor
          · rintro ⟨⟩
            exact ⟨rfl, Schema.key_of_load loaded, file, called, loaded⟩
          · rintro ⟨rfl, -, other, alone, found⟩
            cases called.symm.trans alone
            cases loaded.symm.trans found
            rfl
        decided := by
          rintro diagnostics failed
          cases join.symm.trans failed
        generated }
    | failed problems =>
      rw [loaded] at join
      exact {
        ambiguous := by simp [join, called, Workspace.joined, apart.symm]
        unresolved := by simp [join, called, loaded, Workspace.joined]
        joined := by simp [join, called, loaded, Workspace.joined, Outcome.fail]
        decided := by
          rintro diagnostics failed
          cases join.symm.trans failed
          exact .inr rfl
        generated }
  | first :: second :: others =>
    rw [join_eq_of_several called] at join
    exact {
      ambiguous := by simp [join, called]
      unresolved := by simp [join, called, apart]
      joined := by simp [join, called, Outcome.fail]
      decided := by
        rintro diagnostics failed
        cases join.symm.trans failed
        exact .inl rfl
      generated }

/-- Whatever was done with a workspace, a request is joined with a document if just one of the schema
files that it has now is called by the key, and that file loads. -/
theorem joins_run (config : Config) (sources schemas : List (Path × String)) (actions : List Action)
    (binding : Binding) : ((ofFiles config sources schemas).run actions).Joins binding :=
  ((justified_ofFiles config sources (List.subset_append_left ..)).run
    (List.subset_append_right (schemas.map Prod.fst) (actions.flatMap Action.schemaPaths))).joins binding

end Workspace.Session
end TermBind
