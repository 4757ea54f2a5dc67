import TermBind.Proofs.Workspace.Faults
import TermBind.Proofs.Workspace.Opening

/-! The settings of severities decide how serious a diagnostic is, and nothing else. -/
namespace TermBind

namespace Diagnostic

/-- The diagnostic is as serious as its code says. -/
def IsUnset (diagnostic : Diagnostic) : Prop := diagnostic.severity = diagnostic.code.defaultSeverity

theorem isUnset_of (code : Code) (arguments : List String) : (of code arguments).IsUnset := rfl

theorem IsMade.isUnset {codes : List Code} {diagnostic : Diagnostic} (made : diagnostic.IsMade codes) :
    diagnostic.IsUnset := by
  obtain ⟨code, _, arguments, rfl⟩ := made
  exact isUnset_of code arguments

theorem IsUnset.locatedAt {diagnostic : Diagnostic} (unset : diagnostic.IsUnset)
    (location : Option Location) : (diagnostic.locatedAt location).IsUnset := unset

/-- The diagnostic is as serious as the settings say, and as its code says where they say nothing. -/
def IsSet (overrides : SeverityOverrides) (diagnostic : Diagnostic) : Prop :=
  diagnostic.severity =
    (overrides.entries.lookup diagnostic.code.name).getD diagnostic.code.defaultSeverity

theorem IsUnset.isSet_apply {diagnostic : Diagnostic} (unset : diagnostic.IsUnset)
    (overrides : SeverityOverrides) : (overrides.apply diagnostic).IsSet overrides :=
  congrArg (overrides.entries.lookup diagnostic.code.name).getD unset

/-- Two diagnostics say the same, however serious they are. -/
structure SaysSame (left right : Diagnostic) : Prop where
  code : left.code = right.code
  message : left.message = right.message
  arguments : left.arguments = right.arguments
  location : left.location = right.location

theorem saysSame_apply (left right : SeverityOverrides) (diagnostic : Diagnostic) :
    (left.apply diagnostic).SaysSame (right.apply diagnostic) := ⟨rfl, rfl, rfl, rfl⟩

/-- Severities can be set before the order is made or after it. -/
theorem sortOn_map_apply (overrides : SeverityOverrides) (diagnostics : List Diagnostic) :
    Collection.sortOn sortKey (diagnostics.map overrides.apply) =
      (Collection.sortOn sortKey diagnostics).map overrides.apply := by
  symm
  apply List.map_mergeSort
  intro left _ right _
  rw [sortKey_apply, sortKey_apply]

end Diagnostic

namespace Output

variable {first : List Diagnostic} {outcomes : List (Outcome Product)}

theorem diagnostics_assemble (overrides : SeverityOverrides) :
    (assemble overrides first outcomes).diagnostics =
      (Collection.sortOn Diagnostic.sortKey (problems first outcomes)).map overrides.apply :=
  Diagnostic.sortOn_map_apply overrides _

theorem forall₂_saysSame_assemble (left right : SeverityOverrides) (first : List Diagnostic)
    (outcomes : List (Outcome Product)) :
    List.Forall₂ Diagnostic.SaysSame (assemble left first outcomes).diagnostics
      (assemble right first outcomes).diagnostics := by
  rw [diagnostics_assemble, diagnostics_assemble, List.forall₂_map_left_iff,
    List.forall₂_map_right_iff, List.forall₂_same]
  exact fun diagnostic _ => Diagnostic.saysSame_apply left right diagnostic

theorem isUnset_contested {name : String} {rivals : List Product} {diagnostic : Diagnostic}
    (member : diagnostic ∈ contested (name, rivals)) : diagnostic.IsUnset := by
  rw [contested_eq_ite] at member
  split at member
  · cases member
  · obtain ⟨product, _, rfl⟩ := List.mem_map.mp member
    exact (Diagnostic.isUnset_of ..).locatedAt product.location

theorem isUnset_problems (given : ∀ diagnostic ∈ first, diagnostic.IsUnset)
    (failed : ∀ outcome ∈ outcomes, ∀ diagnostic ∈ outcome.diagnostics, diagnostic.IsUnset) :
    ∀ diagnostic ∈ problems first outcomes, diagnostic.IsUnset := by
  intro diagnostic member
  rcases List.mem_append.mp member with before | contest
  · rcases List.mem_append.mp before with own | failure
    · exact given diagnostic own
    · obtain ⟨outcome, known, reported⟩ := List.mem_flatMap.mp failure
      exact failed outcome known diagnostic reported
  · obtain ⟨⟨name, rivals⟩, _, reported⟩ := List.mem_flatMap.mp contest
    exact isUnset_contested reported

theorem isSet_assemble (overrides : SeverityOverrides)
    (given : ∀ diagnostic ∈ first, diagnostic.IsUnset)
    (failed : ∀ outcome ∈ outcomes, ∀ diagnostic ∈ outcome.diagnostics, diagnostic.IsUnset) :
    ∀ diagnostic ∈ (assemble overrides first outcomes).diagnostics, diagnostic.IsSet overrides := by
  intro diagnostic member
  rw [diagnostics_assemble] at member
  obtain ⟨unset, known, rfl⟩ := List.mem_map.mp member
  have listed := (Collection.sortOn_perm _ _).mem_iff.mp known
  exact (isUnset_problems given failed unset listed).isSet_apply overrides

end Output

namespace Scan

theorem isUnset_outcome {name : String} {declaration : Declaration} {found : List AnnotationUse}
    {diagnostic : Diagnostic} (member : diagnostic ∈ (outcome name declaration found).diagnostics) :
    diagnostic.IsUnset := by
  unfold outcome at member
  cases request : fromAnnotations name declaration found with
  | ok binding =>
    rw [request] at member
    cases member
  | error fault =>
    rw [request] at member
    rw [List.mem_singleton.mp member]
    exact (isMade_fromAnnotations request).isUnset.locatedAt _

theorem isUnset_file [Wording] {name text : String} {path root : Path} {scan : Outcome ScannedBinding}
    (member : scan ∈ uninterrupted (file (pure ()) name path text root)) {diagnostic : Diagnostic}
    (reported : diagnostic ∈ scan.diagnostics) : diagnostic.IsUnset := by
  rcases mem_file member with ⟨declaration, found, _, rfl⟩ | ⟨place, rfl⟩
  · exact isUnset_outcome reported
  · rw [List.mem_singleton.mp reported]
    rfl

end Scan

namespace Workspace

namespace Contents

variable (contents : Contents)

theorem isUnset_keyProblems : ∀ diagnostic ∈ contents.keyProblems, diagnostic.IsUnset := by
  intro diagnostic member
  obtain ⟨key, _, clash⟩ := List.mem_filterMap.mp member
  unfold clash? at clash
  split at clash
  · cases clash
  · cases clash
    exact Diagnostic.isUnset_of ..

variable [Wording]

theorem isUnset_documentOf {path : Path} {text : String} {diagnostic : Diagnostic}
    (member : diagnostic ∈ (documentOf path text).diagnostics) : diagnostic.IsUnset := by
  rw [eq_of_mem_documentOf member]
  rfl

theorem isUnset_loadProblems : ∀ diagnostic ∈ contents.loadProblems, diagnostic.IsUnset := by
  intro diagnostic member
  obtain ⟨key, _, faulty⟩ := List.mem_flatMap.mp member
  unfold faults at faulty
  split at faulty
  · exact isUnset_documentOf faulty
  · cases faulty

theorem isUnset_outcomesOf (file : Path × String) :
    ∀ outcome ∈ contents.outcomesOf file, ∀ diagnostic ∈ outcome.diagnostics, diagnostic.IsUnset := by
  intro outcome member diagnostic reported
  obtain ⟨scan, listed, rfl⟩ := List.mem_map.mp member
  rcases contents.productBy_cases scan with
    ⟨diagnostics, rfl, same⟩ | ⟨scanned, rfl, ⟨artifact, same⟩ | ⟨diagnostics, same, made⟩⟩
  all_goals rw [same] at reported
  · exact Scan.isUnset_file listed reported
  · cases reported
  · rw [Outcome.diagnostics, Diagnostics.toList_map] at reported
    obtain ⟨own, known, rfl⟩ := List.mem_map.mp reported
    exact (made own known).isUnset.locatedAt _

theorem isSet_output :
    ∀ diagnostic ∈ contents.output.diagnostics, diagnostic.IsSet contents.config.severity := by
  rw [output_eq]
  apply Output.isSet_assemble
  · intro diagnostic member
    rcases List.mem_append.mp member with key | load
    · exact contents.isUnset_keyProblems diagnostic key
    · exact contents.isUnset_loadProblems diagnostic load
  · intro outcome member
    obtain ⟨file, _, listed⟩ := List.mem_flatMap.mp member
    exact contents.isUnset_outcomesOf file outcome listed

/-- The same files under other settings of severities. -/
def withSeverity (overrides : SeverityOverrides) : Contents :=
  { contents with config := { contents.config with severity := overrides } }

theorem output_withSeverity (overrides : SeverityOverrides) :
    (contents.withSeverity overrides).output =
      .assemble overrides (contents.keyProblems ++ contents.loadProblems)
        (contents.sources.flatMap contents.outcomesOf) :=
  output_eq _

end Contents

namespace Session

/-- Two outputs differ in how serious their diagnostics are, which each has from its own settings. -/
structure DiffersInSeverity (left right : SeverityOverrides) (output output' : Output) : Prop where
  artifacts : output.artifacts = output'.artifacts
  diagnostics : List.Forall₂ Diagnostic.SaysSame output.diagnostics output'.diagnostics
  severities : ∀ diagnostic ∈ output.diagnostics, diagnostic.IsSet left
  severities' : ∀ diagnostic ∈ output'.diagnostics, diagnostic.IsSet right

/-- Settings that differ in severities give the same artifacts and the same diagnostics in the same
order, each as serious as the settings or else its code say. -/
theorem differsInSeverity_pipeline [Wording] (config : Config) (left right : SeverityOverrides)
    (sources schemas : List (Path × String)) :
    DiffersInSeverity left right
      ((ofFiles { config with severity := left } sources schemas).fetch .pipeline).1
      ((ofFiles { config with severity := right } sources schemas).fetch .pipeline).1 := by
  let contents : Contents := { config, sources, schemas }
  have first := contents.output_withSeverity left
  have second := contents.output_withSeverity right
  rw [pipeline_ofFiles, pipeline_ofFiles]
  refine ⟨?artifacts, ?diagnostics, ?severities, ?severities'⟩
  case artifacts => exact (congrArg Output.artifacts first).trans (congrArg Output.artifacts second).symm
  case diagnostics =>
    have same := Output.forall₂_saysSame_assemble left right
      (contents.keyProblems ++ contents.loadProblems) (contents.sources.flatMap contents.outcomesOf)
    rwa [← first, ← second] at same
  case severities => exact (contents.withSeverity left).isSet_output
  case severities' => exact (contents.withSeverity right).isSet_output

end Session
end Workspace
end TermBind
