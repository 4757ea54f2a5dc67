import TermBind.Proofs.Path.Components
import TermBind.Proofs.Storage
import TermBind.Proofs.Workspace.Faults
import TermBind.Proofs.Workspace.Opening

/-! The names of artifacts: each is that of a declared type with the suffix, and no two are the same.
With a suffix that has no slash they are names of files in one directory. -/
namespace TermBind

namespace Source

theorem ne_slash_of_rest {c : Char} (rest : isIdentifierRest c = true) : c ≠ '/' := by
  rintro rfl
  revert rest
  decide

theorem ne_of_start {c : Char} (start : isIdentifierStart c = true) : c ≠ '/' ∧ c ≠ '.' := by
  constructor
  all_goals
    rintro rfl
    revert start
    decide

theorem not_isPlain_raw (rest : List Char) : ¬ IsPlain ('r' :: '#' :: rest) := by
  rintro ⟨_, passes⟩
  have mark := passes '#' (by simp)
  revert mark
  decide

/-- A plain word with a suffix is a name that a file can have. -/
theorem isName_append {plain : List Char} (isPlain : IsPlain plain) {suffix : String}
    (slashFree : '/' ∉ suffix.toList) : Path.IsName (String.ofList plain ++ suffix) := by
  cases plain with
  | nil => exact isPlain.elim
  | cons first rest =>
    obtain ⟨start, passes⟩ := isPlain
    obtain ⟨notSlash, notDot⟩ := ne_of_start start
    have spelled : (String.ofList (first :: rest) ++ suffix).toList = first :: (rest ++ suffix.toList) := by
      simp
    have other : ∀ text : String, text.toList.head? ≠ some first →
        String.ofList (first :: rest) ++ suffix ≠ text := by
      rintro text differs rfl
      simp at differs
    refine ⟨other "" (by simp), other "." (by simpa using notDot.symm),
      other ".." (by simpa using notDot.symm), ?_⟩
    rw [spelled]
    simp only [List.mem_cons, List.mem_append, not_or]
    exact ⟨notSlash.symm, fun member => ne_slash_of_rest (passes _ member) rfl, slashFree⟩

end Source

namespace Artifact

theorem exists_plain {binding : Binding} (isWord : Source.IsWord binding.typeName) (suffix : String) :
    ∃ plain, Source.IsPlain plain ∧ nameFor binding suffix = String.ofList plain ++ suffix := by
  rcases isWord with isPlain | ⟨plain, spelled, isPlain⟩
  · refine ⟨binding.typeName.toList, isPlain, ?_⟩
    unfold nameFor
    split
    · rename_i rest spelled
      exact absurd (spelled ▸ isPlain) (Source.not_isPlain_raw rest)
    · simp
  · refine ⟨plain, isPlain, ?_⟩
    simp [nameFor, spelled]

end Artifact

namespace Scan

/-- The type that a request is for is called by a word. -/
theorem isWord_typeName [Wording] {name text : String} {path root : Path} {scanned : ScannedBinding}
    (member : .ok scanned ∈ uninterrupted (file (pure ()) name path text root)) :
    Source.IsWord scanned.binding.typeName := by
  rcases mem_file_declared member with ⟨items, _, declared, _, found, same⟩ | ⟨place, same⟩
  · unfold outcome at same
    cases request : fromAnnotations name (declared.view path.text) found with
    | error fault =>
      rw [request] at same
      cases same
    | ok binding =>
      rw [request] at same
      cases same
      obtain ⟨isType, full, known, typed⟩ := fromAnnotations_eq_ok request
      obtain ⟨module, _, rfl⟩ := Option.map_eq_some_iff.mp known
      have kind : declared.heading.kind ≠ .implementation := by
        intro implementation
        have isType : declared.heading.kind.isType = true := isType
        rw [implementation] at isType
        cases isType
      exact typed ▸ declared.heading.isWord kind
  · cases same

end Scan

namespace Workspace.Contents

variable [Wording] {contents : Contents}

theorem binding_of_join {binding : Binding} {unit : JoinedUnit}
    (made : contents.join binding = .ok unit) : unit.binding = binding := by
  unfold join at made
  split at made
  · cases made
  · rename_i file _
    cases document : documentOf file.1 file.2 with
    | ok schema =>
      rw [document] at made
      cases made
      rfl
    | failed diagnostics =>
      rw [document] at made
      cases made
  · cases made

theorem name_of_generate {binding : Binding} {artifact : Artifact}
    (made : contents.generate binding = .ok artifact) :
    artifact.name = Artifact.nameFor binding contents.config.output.artifactSuffix := by
  unfold generate at made
  cases unit : contents.join binding with
  | failed diagnostics =>
    rw [unit] at made
    cases made
  | ok unit' =>
    rw [unit] at made
    simp only [Outcome.andThen, generated] at made
    cases text : Artifact.generate unit'.binding unit'.schema with
    | failed diagnostics =>
      rw [text] at made
      cases made
    | ok text' =>
      rw [text] at made
      cases made
      rw [binding_of_join unit]

/-- Every product is that of a request for a type called by a word. -/
theorem exists_binding {product : Product}
    (member : .ok product ∈ contents.sources.flatMap contents.outcomesOf) :
    ∃ binding, Source.IsWord binding.typeName ∧
      product.artifact.name = Artifact.nameFor binding contents.config.output.artifactSuffix := by
  obtain ⟨file, _, known⟩ := List.mem_flatMap.mp member
  obtain ⟨scan, listed, same⟩ := List.mem_map.mp known
  cases scan with
  | failed diagnostics => cases same
  | ok scanned =>
    simp only [productBy, productOf] at same
    cases made : contents.generate scanned.binding with
    | failed diagnostics =>
      rw [made] at same
      cases same
    | ok artifact =>
      rw [made] at same
      cases same
      exact ⟨scanned.binding, Scan.isWord_typeName listed, name_of_generate made⟩

theorem isName_artifact (slashFree : '/' ∉ contents.config.output.artifactSuffix.toList)
    {entry : String × Artifact} (member : entry ∈ contents.output.artifacts) :
    entry.2.name = entry.1 ∧ Path.IsName entry.1 := by
  obtain ⟨name, artifact⟩ := entry
  rw [output_eq] at member
  obtain ⟨location, alone⟩ := (Output.mem_artifacts_assemble ..).mp member
  have producer : ⟨artifact, location⟩ ∈ Output.producers
      ((contents.sources.flatMap contents.outcomesOf).filterMap Outcome.value?) name := by simp [alone]
  have named : artifact.name = name := Output.producers_name producer
  obtain ⟨outcome, listed, value⟩ := List.mem_filterMap.mp (List.mem_filter.mp producer).1
  cases outcome with
  | failed diagnostics => cases value
  | ok product =>
    cases value
    obtain ⟨binding, isWord, spelled⟩ := exists_binding listed
    obtain ⟨plain, isPlain, spelled'⟩ :=
      Artifact.exists_plain isWord contents.config.output.artifactSuffix
    refine ⟨named, ?_⟩
    rw [← named, spelled, spelled']
    exact Source.isName_append isPlain slashFree

/-- The artifacts of a workspace can be files of one directory. -/
theorem areApart_artifacts (slashFree : '/' ∉ contents.config.output.artifactSuffix.toList) :
    DirectorySink.AreApart (DirectorySink.sourcesOf contents.output.artifacts) := by
  constructor
  · intro source member
    obtain ⟨entry, listed, rfl⟩ := List.mem_map.mp member
    obtain ⟨named, isName⟩ := isName_artifact slashFree listed
    exact named ▸ isName
  · have ascending := Output.pairwise_artifacts contents.config.severity
      (contents.keyProblems ++ contents.loadProblems) (contents.sources.flatMap contents.outcomesOf)
    rw [← output_eq, List.pairwise_map] at ascending
    rw [DirectorySink.sourcesOf, List.pairwise_map]
    refine ascending.imp_of_mem fun {left right} first second less => ?_
    dsimp only
    rw [(isName_artifact slashFree first).1, (isName_artifact slashFree second).1]
    intro same
    simp [same] at less

end Workspace.Contents

end TermBind
