import TermBind.Proofs.Output
import TermBind.Proofs.Workspace.History

/-! Everything in a workspace is accounted for once: each key by its document's faults or as a
duplicate, and each declaration by its artifact or by what is reported of it. -/
namespace TermBind.Workspace

open Incremental

namespace Contents

variable [Wording] (contents : Contents)

/-- What is reported of a key: the faults of its one document, or that it has several. -/
def keyReports (key : String) : List Diagnostic :=
  match contents.providers key with
  | [] => []
  | [file] => (documentOf file.1 file.2).diagnostics
  | files => [duplicateKey key files]

omit [Wording] in
theorem mem_keys {key : String} : key ∈ contents.keys ↔ contents.providers key ≠ [] := by
  rw [keys, Collection.mem_ascending, providers, ne_eq, List.filter_eq_nil_iff]
  simp [List.mem_filterMap]

/-- The reports of keys are made in two rounds, duplicates first. -/
theorem keyProblems_perm :
    (contents.keyProblems ++ contents.loadProblems).Perm
      (contents.keys.flatMap contents.keyReports) := by
  have each : contents.keys.flatMap contents.keyReports = contents.keys.flatMap fun key =>
      (clash? key (contents.providers key)).toList ++ faults (contents.providers key) := by
    apply List.flatMap_congr
    intro key member
    have provided := (mem_keys contents).mp member
    rw [keyReports]
    generalize contents.providers key = files at provided
    rcases files with _ | ⟨file, _ | ⟨second, rest⟩⟩
    · exact (provided rfl).elim
    · rfl
    · rfl
  rw [each, keyProblems, loadProblems, List.filterMap_eq_flatMap_toList]
  exact List.flatMap_append_perm ..

end Contents

namespace Session

variable [Wording] (session : Session)

/-- The key of a schema file. -/
def fileKey? (file : FileId) : Option String :=
  keyOf? (session.value .config).schema.extension (session.value (.schemaPath file))

/-- The schema files that provide a key. -/
def providers (key : String) : List FileId :=
  (session.value .schemas).filter fun file => session.fileKey? file == some key

/-- What is reported of a key: the faults of its one document, or that it has several, with their
paths in order. -/
def keyReports (key : String) : List Diagnostic :=
  match session.providers key with
  | [] => []
  | [file] => (session.fetch (.loadSchema file)).1.diagnostics
  | files =>
    let paths := Collection.sortOn id (files.map fun file => session.value (.schemaPath file))
    [Diagnostic.of .duplicateSchemaKey [key, ", ".intercalate (paths.map Path.text)]]

/-- What comes of every annotated declaration, file by file. -/
def scans : List (Outcome ScannedBinding) :=
  (session.value .sources).flatMap fun file => (session.fetch (.scanSource file)).1

/-- The product of a declaration, or why it has none. -/
def produced : Outcome ScannedBinding → Outcome Product :=
  productBy fun binding => (session.fetch (.generateBinding binding)).1

/-- The products of all declarations, as often as they are produced. -/
def products : List Product :=
  (session.scans.map session.produced).filterMap Outcome.value?

/-- What is reported of a declaration. -/
def reports (scan : Outcome ScannedBinding) : List Diagnostic :=
  Output.reports session.products (session.produced scan)

/-- The output of a workspace accounts for everything once. -/
structure Accounted : Prop where
  names : ((session.fetch .pipeline).1.artifacts.map Prod.fst).Pairwise
    fun left right => compare left right = .lt
  artifacts : ∀ name artifact, (name, artifact) ∈ (session.fetch .pipeline).1.artifacts ↔
    ∃ location, Output.producers session.products name = [⟨artifact, location⟩]
  diagnostics : ∃ raw : List Diagnostic,
    (session.fetch .pipeline).1.diagnostics =
      Collection.sortOn Diagnostic.sortKey (raw.map (session.value .config).severity.apply) ∧
    ∃ keys : List String, keys.Nodup ∧ (∀ key, key ∈ keys ↔ session.providers key ≠ []) ∧
      raw.Perm (keys.flatMap session.keyReports ++ session.scans.flatMap session.reports)
  declarations : ∀ scan ∈ session.scans,
    (session.reports scan = [] ∧ ∃ product, session.produced scan = .ok product ∧
      (product.artifact.name, product.artifact) ∈ (session.fetch .pipeline).1.artifacts) ∨
    (session.reports scan ≠ [] ∧
      (∀ diagnostic ∈ session.reports scan,
        (session.value .config).severity.apply diagnostic ∈
          (session.fetch .pipeline).1.diagnostics) ∧
      ∀ product, session.produced scan = .ok product →
        product.artifact.name ∉ (session.fetch .pipeline).1.artifacts.map Prod.fst)

variable {session}

omit [Wording] in
theorem contents_providers (key : String) :
    session.contents.providers key = (session.providers key).map session.schemaFile := by
  change ((session.value .schemas).map session.schemaFile).filter _ = _
  rw [List.filter_map]
  rfl

theorem Plain.keyReports_eq (plain : session.Plain) :
    session.contents.keyReports = session.keyReports := by
  funext key
  rw [Contents.keyReports, keyReports, contents_providers]
  cases provided : session.providers key with
  | nil => rfl
  | cons file rest =>
    cases rest with
    | nil =>
      have member : file ∈ session.providers key := by simp [provided]
      have load := plain.loads file (List.mem_filter.mp member).1
      rw [evaluate_loadSchema] at load
      exact (congrArg Outcome.diagnostics load).symm
    | cons second others =>
      simp [Contents.duplicateKey, schemaFile, Function.comp_def]

theorem Plain.scanned_eq (plain : session.Plain) : session.contents.scanned = session.scans := by
  rw [contents, Contents.scanned_ofValues]
  exact List.flatMap_congr fun file listed => (plain.scans file listed).symm

theorem Plain.produced_eq (plain : session.Plain) :
    productBy session.contents.generate = session.produced := by
  rw [produced]
  congr 1
  funext binding
  rw [plain.generated, Contents.evaluate_generateBinding_eq, contents]

theorem Plain.output_eq (plain : session.Plain) :
    (session.fetch .pipeline).1 =
      .assemble (session.value .config).severity
        (session.contents.keyProblems ++ session.contents.loadProblems)
        (session.scans.map session.produced) := by
  rw [plain.pipeline, Contents.evaluate_pipeline_eq, ← plain.produced_eq, ← plain.scanned_eq]
  rfl

theorem mem_products {scan : Outcome ScannedBinding} (listed : scan ∈ session.scans)
    {product : Product} (produced : session.produced scan = .ok product) :
    product ∈ session.products :=
  List.mem_filterMap.mpr ⟨_, List.mem_map_of_mem listed, by rw [produced]; rfl⟩

/-- A declaration that nothing is reported of has a product of a name of its own. -/
theorem reports_eq_nil {scan : Outcome ScannedBinding} (listed : scan ∈ session.scans) :
    session.reports scan = [] ↔ ∃ product, session.produced scan = .ok product ∧
      Output.producers session.products product.artifact.name = [product] := by
  unfold reports
  cases outcome : session.produced scan with
  | ok product =>
    change Output.contention _ _ = [] ↔ _
    rw [Output.contention_eq_nil (mem_products listed outcome)]
    simp
  | failed diagnostics => simp [Output.reports, Diagnostics.toList]

theorem Plain.mem_artifacts (plain : session.Plain) {name : String} {artifact : Artifact} :
    (name, artifact) ∈ (session.fetch .pipeline).1.artifacts ↔
      ∃ location, Output.producers session.products name = [⟨artifact, location⟩] := by
  rw [plain.output_eq]
  exact Output.mem_artifacts_assemble ..

/-- A name with an artifact has one product, and then nothing is reported of its declaration. -/
theorem Plain.reports_eq_nil_of_stored (plain : session.Plain) {scan : Outcome ScannedBinding}
    (listed : scan ∈ session.scans) {product : Product}
    (produced : session.produced scan = .ok product)
    (stored : product.artifact.name ∈ (session.fetch .pipeline).1.artifacts.map Prod.fst) :
    session.reports scan = [] := by
  obtain ⟨⟨name, artifact⟩, known, same⟩ := List.mem_map.mp stored
  obtain ⟨location, alone⟩ := plain.mem_artifacts.mp known
  have own := Output.mem_producers.mpr (mem_products listed produced)
  rw [← same, alone] at own
  rw [reports_eq_nil listed]
  exact ⟨product, produced, by rw [← same, alone, List.mem_singleton.mp own]⟩

/-- What there is to report before severities are applied and the reports are sorted. -/
def problems (session : Session) : List Diagnostic :=
  Output.problems (session.contents.keyProblems ++ session.contents.loadProblems)
    (session.scans.map session.produced)

theorem Plain.diagnostics_eq (plain : session.Plain) :
    (session.fetch .pipeline).1.diagnostics = Collection.sortOn Diagnostic.sortKey
      (session.problems.map (session.value .config).severity.apply) := by
  rw [plain.output_eq]
  rfl

theorem Plain.problems_perm (plain : session.Plain) :
    session.problems.Perm (session.contents.keys.flatMap session.keyReports ++
      session.scans.flatMap session.reports) := by
  have reported := Output.problems_perm
    (session.contents.keyProblems ++ session.contents.loadProblems)
    (session.scans.map session.produced)
  rw [List.flatMap_map] at reported
  rw [← plain.keyReports_eq]
  exact reported.trans (session.contents.keyProblems_perm.append_right _)

/-- What is reported of a declaration is in the output, with its severity. -/
theorem Plain.mem_diagnostics (plain : session.Plain) {scan : Outcome ScannedBinding}
    (listed : scan ∈ session.scans) {diagnostic : Diagnostic}
    (member : diagnostic ∈ session.reports scan) :
    (session.value .config).severity.apply diagnostic ∈
      (session.fetch .pipeline).1.diagnostics := by
  rw [plain.diagnostics_eq]
  apply (Collection.sortOn_perm ..).mem_iff.mpr
  apply List.mem_map_of_mem
  apply plain.problems_perm.mem_iff.mpr
  exact List.mem_append_right _ (List.mem_flatMap.mpr ⟨scan, listed, member⟩)

theorem Plain.accounted (plain : session.Plain) : session.Accounted where
  names := by
    rw [plain.output_eq]
    exact Output.pairwise_artifacts ..
  artifacts _ _ := plain.mem_artifacts
  diagnostics := by
    refine ⟨session.problems, plain.diagnostics_eq, session.contents.keys,
      Collection.nodup_ascending _, ?_, plain.problems_perm⟩
    intro key
    rw [Contents.mem_keys, contents_providers, ne_eq, List.map_eq_nil_iff]
  declarations scan listed := by
    by_cases silent : session.reports scan = []
    · obtain ⟨product, produced, alone⟩ := (reports_eq_nil listed).mp silent
      exact Or.inl ⟨silent, product, produced, plain.mem_artifacts.mpr ⟨product.location, alone⟩⟩
    · refine Or.inr ⟨silent, fun _ member => plain.mem_diagnostics listed member, ?_⟩
      intro product produced stored
      exact silent (plain.reports_eq_nil_of_stored listed produced stored)

/-- The output of a workspace accounts for each key and each declaration once. -/
theorem accounted_ofFiles (config : Config) (sources schemas : List (Path × String)) :
    (ofFiles config sources schemas).Accounted :=
  (unasked_ofFiles config sources schemas).plain.accounted

end Session
end TermBind.Workspace
