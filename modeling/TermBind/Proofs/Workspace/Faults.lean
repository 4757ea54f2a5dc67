import TermBind.Proofs.Output
import TermBind.Proofs.Scan.Place
import TermBind.Proofs.Workspace.Contents

/-! What comes of the declarations of one file, given the settings and the schema files. It stands in
the file, and no other file has a part in it. -/
namespace TermBind.Workspace.Contents

variable [Wording]

/-- What comes of the declarations of a file. -/
def outcomesOf (contents : Contents) (file : Path × String) : List (Outcome Product) :=
  (scanOf contents.config file.1 file.2).map (productBy contents.generate)

theorem output_eq (contents : Contents) : contents.output =
    .assemble contents.config.severity (contents.keyProblems ++ contents.loadProblems)
      (contents.sources.flatMap contents.outcomesOf) := by
  rw [output, scanned, List.map_flatMap]
  rfl

/-- What can keep an artifact from being generated. -/
def generationCodes : List Code :=
  [.unresolvedSchemaReference, .ambiguousSchemaReference, .conflictingTermName]

omit [Wording] in
theorem isMade_conflicts {binding : Binding} {schema : Document} {diagnostics : Diagnostics}
    (failed : Artifact.generate binding schema = .failed diagnostics) :
    ∀ diagnostic ∈ diagnostics.toList, diagnostic.IsMade generationCodes := by
  simp only [Artifact.generate] at failed
  split at failed
  · rename_i conflicts
    cases failed
    have listed := Diagnostics.toList_of_ofList? conflicts
    intro diagnostic member
    rw [listed] at member
    obtain ⟨entry, _, rfl⟩ := List.mem_map.mp member
    exact ⟨_, by simp [generationCodes], _, rfl⟩
  · cases failed

theorem isMade_join {contents : Contents} {binding : Binding} {diagnostics : Diagnostics}
    (failed : contents.join binding = .failed diagnostics) :
    ∀ diagnostic ∈ diagnostics.toList, diagnostic.IsMade generationCodes := by
  have single : ∀ {code : Code} {arguments : List String}, code ∈ generationCodes →
      (.fail (.of code arguments) : Outcome JoinedUnit) = .failed diagnostics →
      ∀ diagnostic ∈ diagnostics.toList, diagnostic.IsMade generationCodes := by
    rintro code arguments known same diagnostic member
    cases same
    rw [List.mem_singleton.mp member]
    exact ⟨code, known, arguments, rfl⟩
  unfold join at failed
  split at failed
  · exact single (by simp [generationCodes]) failed
  · rename_i file _
    cases document : documentOf file.1 file.2 with
    | ok schema =>
      rw [document] at failed
      cases failed
    | failed faults =>
      rw [document] at failed
      exact single (by simp [generationCodes]) failed
  · exact single (by simp [generationCodes]) failed

/-- The faults of generating have no place of their own. -/
theorem isMade_generate {contents : Contents} {binding : Binding} {diagnostics : Diagnostics}
    (failed : contents.generate binding = .failed diagnostics) :
    ∀ diagnostic ∈ diagnostics.toList, diagnostic.IsMade generationCodes := by
  unfold generate at failed
  cases unit : contents.join binding with
  | failed faults =>
    rw [unit] at failed
    cases failed
    exact isMade_join unit
  | ok unit' =>
    rw [unit] at failed
    cases text : Artifact.generate unit'.binding unit'.schema with
    | ok text' => simp [Outcome.andThen, generated, text, Outcome.map] at failed
    | failed faults =>
      simp only [Outcome.andThen, generated, text, Outcome.map] at failed
      cases failed
      exact isMade_conflicts text

/-- What comes of a declaration: the faults of its request, a product, or the faults of generating
it, at its place. -/
theorem productBy_cases (contents : Contents) (scan : Outcome ScannedBinding) :
    (∃ diagnostics, scan = .failed diagnostics ∧
      productBy contents.generate scan = .failed diagnostics) ∨
    ∃ scanned, scan = .ok scanned ∧
      ((∃ artifact, productBy contents.generate scan = .ok ⟨artifact, scanned.location⟩) ∨
        ∃ diagnostics : Diagnostics,
          productBy contents.generate scan = .failed (diagnostics.map (·.locatedAt scanned.location)) ∧
          ∀ diagnostic ∈ diagnostics.toList, diagnostic.IsMade generationCodes) := by
  cases scan with
  | failed diagnostics => exact Or.inl ⟨diagnostics, rfl, rfl⟩
  | ok scanned =>
    refine Or.inr ⟨scanned, rfl, ?_⟩
    simp only [productBy, productOf]
    cases made : contents.generate scanned.binding with
    | ok artifact => exact Or.inl ⟨artifact, rfl⟩
    | failed diagnostics => exact Or.inr ⟨diagnostics, rfl, isMade_generate made⟩

/-- Whatever comes of a file stands in that file. -/
theorem standsIn_outcomesOf (contents : Contents) (file : Path × String) :
    ∀ outcome ∈ contents.outcomesOf file, Output.StandsIn file.1.text outcome := by
  intro outcome member
  obtain ⟨scan, listed, rfl⟩ := List.mem_map.mp member
  have stands := Scan.standsIn_file listed
  rcases contents.productBy_cases scan with
    ⟨diagnostics, rfl, same⟩ | ⟨scanned, rfl, ⟨artifact, same⟩ | ⟨diagnostics, same, made⟩⟩
  all_goals rw [same]
  · exact stands
  · exact stands
  · intro diagnostic reported
    rw [Diagnostics.toList_map] at reported
    obtain ⟨own, known, rfl⟩ := List.mem_map.mp reported
    exact Diagnostic.standsIn_locatedAt (made own known).unlocated stands

/-- What is reported of a file before names are compared. -/
theorem code_outcomesOf (contents : Contents) (file : Path × String) :
    ∀ outcome ∈ contents.outcomesOf file, ∀ diagnostic ∈ outcome.diagnostics,
      diagnostic.code ∈ Code.sourceParseError :: Scan.requestCodes ++ generationCodes := by
  intro outcome member diagnostic reported
  obtain ⟨scan, listed, rfl⟩ := List.mem_map.mp member
  rcases contents.productBy_cases scan with
    ⟨diagnostics, rfl, same⟩ | ⟨scanned, rfl, ⟨artifact, same⟩ | ⟨diagnostics, same, made⟩⟩
  all_goals rw [same] at reported
  · exact List.mem_append_left _ (Scan.code_file listed reported)
  · cases reported
  · rw [Outcome.diagnostics, Diagnostics.toList_map] at reported
    obtain ⟨own, known, rfl⟩ := List.mem_map.mp reported
    exact List.mem_append_right _ (made own known).code_mem

end TermBind.Workspace.Contents
