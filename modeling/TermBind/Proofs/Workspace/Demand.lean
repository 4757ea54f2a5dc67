import TermBind.Proofs.Incremental.Progress
import TermBind.Proofs.Workspace.Contents

/-! What each query of a workspace reads, and what the evaluation of the whole workspace needs: the
index and the documents in it, the listed source files, and the bindings of their declarations. -/
namespace TermBind.Workspace

open Incremental

/-- The binding of a declaration, if it has one. -/
def bindingOf? (outcome : Outcome ScannedBinding) : Option Binding :=
  outcome.value?.map ScannedBinding.binding

variable [Wording] (values : (f : Field) → f.Value)

/-- What a plain run of a query reads. -/
def readBy (q : Query) : List (Input signature) :=
  (rules.program q).inputs values (rules.evaluate values)

/-- The bindings of all declarations. -/
def bindingsOf : List Binding :=
  (values .sources).flatMap fun file =>
    (rules.evaluate values (.scanSource file)).filterMap bindingOf?

theorem readBy_loadSchema (file : FileId) :
    readBy values (.loadSchema file) = [.field (.schemaPath file), .field (.schemaText file)] := rfl

theorem readBy_schemaIndex :
    readBy values .schemaIndex = .field .config :: .field .schemas ::
      (values .schemas).map fun file => .field (.schemaPath file) := by
  change indexProgram.inputs values _ = _
  simp [indexProgram, field, Program.run, List.map_eq_flatMap]

theorem readBy_scanSource (file : FileId) :
    readBy values (.scanSource file) =
      [.field .config, .field (.sourcePath file), .field (.sourceText file)] := rfl

theorem readBy_joinBinding (binding : Binding) :
    readBy values (.joinBinding binding) = .query .schemaIndex ::
      match (rules.evaluate values .schemaIndex).find binding.documentKey with
      | .error _ => []
      | .ok file => [.query (.loadSchema file)] := by
  change (joinProgram binding).inputs values _ = _
  simp only [joinProgram, result, Program.inputs_bind, Program.inputs_ask, Program.inputs_done,
    Program.run]
  cases (rules.evaluate values .schemaIndex).find binding.documentKey <;> rfl

theorem mem_readBy_joinBinding {binding : Binding} {input : Input signature} :
    input ∈ readBy values (.joinBinding binding) ↔ input = .query .schemaIndex ∨
      ∃ file, (rules.evaluate values .schemaIndex).find binding.documentKey = .ok file ∧
        input = .query (.loadSchema file) := by
  rw [readBy_joinBinding, List.mem_cons]
  cases (rules.evaluate values .schemaIndex).find binding.documentKey with
  | error diagnostic => simp
  | ok file => simp

theorem readBy_generateBinding (binding : Binding) :
    readBy values (.generateBinding binding) = [.field .config, .query (.joinBinding binding)] := rfl

theorem inputs_productProgram (outcome : Outcome ScannedBinding) :
    (productProgram outcome).inputs values (rules.evaluate values) =
      (bindingOf? outcome).toList.map fun binding => .query (.generateBinding binding) := by
  cases outcome <;> rfl

theorem readBy_pipeline :
    readBy values .pipeline = .query .schemaIndex ::
      ((rules.evaluate values .schemaIndex).documents.map fun entry =>
        .query (.loadSchema entry.2)) ++ .field .sources ::
      ((values .sources).flatMap fun file => .query (.scanSource file) ::
        (rules.evaluate values (.scanSource file)).flatMap fun outcome =>
          (bindingOf? outcome).toList.map fun binding => .query (.generateBinding binding)) ++
      [.field .config] := by
  change pipelineProgram.inputs values _ = _
  simp [pipelineProgram, sourceProgram, field, result, Program.run, inputs_productProgram,
    List.map_eq_flatMap]

/-- What the evaluation of a whole workspace needs. -/
def IsNeeded : Query → Prop
  | .loadSchema file => ∃ key, (key, file) ∈ (rules.evaluate values .schemaIndex).documents
  | .schemaIndex => True
  | .scanSource file => file ∈ values .sources
  | .joinBinding binding => binding ∈ bindingsOf values
  | .generateBinding binding => binding ∈ bindingsOf values
  | .pipeline => True

variable {values}

theorem mem_bindingsOf {binding : Binding} :
    binding ∈ bindingsOf values ↔ ∃ file ∈ values .sources,
      ∃ outcome ∈ rules.evaluate values (.scanSource file), bindingOf? outcome = some binding := by
  simp [bindingsOf]

/-- The whole workspace asks for the index, the documents in it, the listed sources, and what is
generated for the bindings. -/
theorem query_mem_readBy_pipeline {asked : Query} :
    .query asked ∈ readBy values .pipeline ↔ match asked with
      | .loadSchema file => ∃ key, (key, file) ∈ (rules.evaluate values .schemaIndex).documents
      | .schemaIndex => True
      | .scanSource file => file ∈ values .sources
      | .generateBinding binding => binding ∈ bindingsOf values
      | .joinBinding _ => False
      | .pipeline => False := by
  rw [readBy_pipeline]
  cases asked <;> simp [mem_bindingsOf]

theorem field_mem_readBy_pipeline {f : Field} :
    .field f ∈ readBy values .pipeline ↔ f = .sources ∨ f = .config := by
  rw [readBy_pipeline]
  simp

/-- Whatever something needed asks for is needed. -/
theorem IsNeeded.ask {q asked : Query} (needed : IsNeeded values q)
    (member : .query asked ∈ readBy values q) : IsNeeded values asked := by
  cases q with
  | loadSchema file => simp [readBy_loadSchema] at member
  | scanSource file => simp [readBy_scanSource] at member
  | schemaIndex => simp [readBy_schemaIndex] at member
  | joinBinding binding =>
    rcases (mem_readBy_joinBinding values).mp member with same | ⟨file, found, same⟩
    · cases same
      trivial
    · cases same
      exact ⟨_, SchemaIndex.mem_documents_of_find found⟩
  | generateBinding binding =>
    simp only [readBy_generateBinding, List.mem_cons, reduceCtorEq, Input.query.injEq,
      List.not_mem_nil, or_false, false_or] at member
    subst member
    exact needed
  | pipeline =>
    rw [query_mem_readBy_pipeline] at member
    cases asked with
    | joinBinding => exact member.elim
    | pipeline => exact member.elim
    | _ => exact member

theorem IsNeeded.needs {q : Query} (needed : IsNeeded values q) : rules.Needs values .pipeline q := by
  have direct : ∀ {asked : Query}, .query asked ∈ readBy values .pipeline →
      rules.Needs values .pipeline asked := fun member => .ask member (.self _)
  cases q with
  | pipeline => exact .self _
  | joinBinding binding =>
    have generated : .query (.generateBinding binding) ∈ readBy values .pipeline :=
      query_mem_readBy_pipeline.mpr needed
    have joined : .query (.joinBinding binding) ∈ readBy values (.generateBinding binding) := by
      simp [readBy_generateBinding]
    exact .ask generated (.ask joined (.self _))
  | _ => exact direct (query_mem_readBy_pipeline.mpr needed)

/-- What the evaluation of a whole workspace needs, directly or not. -/
theorem needs_pipeline {q : Query} : rules.Needs values .pipeline q ↔ IsNeeded values q := by
  constructor
  · exact fun needs => needs.induct (fun _ _ => IsNeeded.ask) trivial
  · exact IsNeeded.needs

end TermBind.Workspace
