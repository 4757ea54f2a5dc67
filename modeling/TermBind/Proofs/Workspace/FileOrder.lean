import TermBind.Proofs.Path.Order
import TermBind.Proofs.Workspace.Faults
import TermBind.Proofs.Workspace.Opening

/-! The order in which the files of a workspace are listed does not matter to its output. -/
namespace TermBind.Workspace

namespace Contents

/-- The same settings, and the same files in another order. -/
structure Reordered (left right : Contents) : Prop where
  config : left.config = right.config
  sources : left.sources.Perm right.sources
  schemas : left.schemas.Perm right.schemas

variable {left right : Contents}

theorem Reordered.providers_perm (reordered : left.Reordered right) (key : String) :
    (left.providers key).Perm (right.providers key) := by
  rw [providers, providers, reordered.config]
  exact reordered.schemas.filter _

theorem Reordered.keys_eq (reordered : left.Reordered right) : left.keys = right.keys := by
  rw [keys, keys, reordered.config]
  exact Collection.ascending_congr fun _ => (reordered.schemas.filterMap _).mem_iff

/-- Paths that name one place are written alike, so they can be listed in one order only. -/
theorem duplicateKey_eq_of_perm {files files' : List (Path × String)} (perm : files.Perm files')
    (alike : Path.SpelledAlike (files.map Prod.fst)) (key : String) :
    duplicateKey key files = duplicateKey key files' := by
  unfold duplicateKey
  rw [Collection.sortOn_eq_of_perm id (perm.map Prod.fst)]
  intro path member path' member' level
  exact alike path member path' member' (Path.same_of_compare level)

theorem clash?_eq_of_perm {files files' : List (Path × String)} (perm : files.Perm files')
    (alike : Path.SpelledAlike (files.map Prod.fst)) (key : String) :
    clash? key files = clash? key files' := by
  have reported := duplicateKey_eq_of_perm perm alike key
  rcases Collection.eq_or_several_of_perm perm with rfl | ⟨⟨_, _, _, rfl⟩, _, _, _, rfl⟩
  · rfl
  · exact congrArg some reported

variable [Wording]

theorem faults_eq_of_perm {files files' : List (Path × String)} (perm : files.Perm files') :
    faults files = faults files' := by
  rcases Collection.eq_or_several_of_perm perm with rfl | ⟨⟨_, _, _, rfl⟩, _, _, _, rfl⟩ <;> rfl

omit [Wording] in
theorem Reordered.keyProblems_eq (reordered : left.Reordered right)
    (alike : Path.SpelledAlike (left.schemas.map Prod.fst)) :
    left.keyProblems = right.keyProblems := by
  rw [keyProblems, keyProblems, reordered.keys_eq]
  apply List.filterMap_congr
  intro key _
  have provided : (left.providers key).map Prod.fst ⊆ left.schemas.map Prod.fst :=
    List.map_subset _ (List.filter_subset_self _)
  exact clash?_eq_of_perm (reordered.providers_perm key) (alike.of_subset provided) key

theorem Reordered.loadProblems_eq (reordered : left.Reordered right) :
    left.loadProblems = right.loadProblems := by
  rw [loadProblems, loadProblems, reordered.keys_eq]
  exact List.flatMap_congr fun key _ => faults_eq_of_perm (reordered.providers_perm key)

theorem Reordered.join_eq (reordered : left.Reordered right) (binding : Binding) :
    left.join binding = right.join binding := by
  rw [join, join]
  have perm := reordered.providers_perm binding.documentKey
  generalize left.providers binding.documentKey = files at perm
  generalize right.providers binding.documentKey = files' at perm
  rcases Collection.eq_or_several_of_perm perm with rfl | ⟨⟨_, _, _, rfl⟩, _, _, _, rfl⟩ <;> rfl

theorem Reordered.generate_eq (reordered : left.Reordered right) : left.generate = right.generate := by
  funext binding
  rw [generate, generate, reordered.join_eq, reordered.config]

theorem Reordered.output_eq (reordered : left.Reordered right)
    (distinct : (left.sources.map fun file => file.1.text).Nodup)
    (alike : Path.SpelledAlike (left.schemas.map Prod.fst)) : left.output = right.output := by
  have outcomes : left.outcomesOf = right.outcomesOf := by
    funext file
    rw [outcomesOf, outcomesOf, reordered.config, reordered.generate_eq]
  rw [Contents.output_eq, Contents.output_eq, reordered.config, reordered.keyProblems_eq alike,
    reordered.loadProblems_eq, outcomes]
  apply Output.assemble_eq_of_perm reordered.sources distinct
  exact fun file _ => right.standsIn_outcomesOf file

end Contents

namespace Session

/-- Workspaces whose files are listed in different orders have the same output, provided that the
source files have different paths and no place is written in two ways among the schema files. -/
theorem output_eq_of_perm [Wording] (config : Config)
    {sources sources' schemas schemas' : List (Path × String)}
    (sourcePerm : sources.Perm sources') (schemaPerm : schemas.Perm schemas')
    (distinct : (sources.map fun file => file.1.text).Nodup)
    (alike : Path.SpelledAlike (schemas.map Prod.fst)) :
    ((ofFiles config sources schemas).fetch .pipeline).1 =
      ((ofFiles config sources' schemas').fetch .pipeline).1 := by
  have reordered : Contents.Reordered { config, sources, schemas }
      { config, sources := sources', schemas := schemas' } := ⟨rfl, sourcePerm, schemaPerm⟩
  rw [pipeline_ofFiles, pipeline_ofFiles]
  exact reordered.output_eq distinct alike

section

open scoped Wording

/-- Two files that cannot be read and two that provide one key, each pair in both orders. -/
theorem output_eq_of_swapped_files :
    ["src/a.rs", "src/b.rs"].Nodup ∧ Path.SpelledAlike [⟨"a/x.ttl"⟩, ⟨"b/x.ttl"⟩] ∧
    ((ofFiles {} [(⟨"src/a.rs"⟩, "struct"), (⟨"src/b.rs"⟩, "struct")]
      [(⟨"a/x.ttl"⟩, ""), (⟨"b/x.ttl"⟩, "")]).fetch .pipeline).1 =
    ((ofFiles {} [(⟨"src/b.rs"⟩, "struct"), (⟨"src/a.rs"⟩, "struct")]
      [(⟨"b/x.ttl"⟩, ""), (⟨"a/x.ttl"⟩, "")]).fetch .pipeline).1 :=
  have distinct : ["src/a.rs", "src/b.rs"].Nodup := by decide
  have alike : Path.SpelledAlike [⟨"a/x.ttl"⟩, ⟨"b/x.ttl"⟩] := by decide +kernel
  ⟨distinct, alike, output_eq_of_perm {} (.swap ..) (.swap ..) distinct alike⟩

end

end Session
end TermBind.Workspace
