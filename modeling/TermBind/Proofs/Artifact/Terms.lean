import TermBind.Artifact
import TermBind.Proofs.Collection.Ascending

/-! The terms of an artifact: the IRIs of a document that have a constant, each with its constant. -/
namespace TermBind.Artifact

open Collection

/-- The constant that an IRI has below a prefix. -/
def constantOf? (prefixUri iri : String) : Option String :=
  (localName? prefixUri iri).bind Constant.ofLocal?

/-- The constants of an artifact in order, each with its IRI. -/
def terms (prefixUri : String) (schema : Document) : List (String × String) :=
  (termNames prefixUri schema).filterMap fun entry => entry.2.head?.map fun iri => (entry.1, iri)

/-- No constant is contended for. -/
def IsPeaceful (prefixUri : String) (schema : Document) : Prop :=
  ∀ entry ∈ termNames prefixUri schema, isConflict entry = false

variable {prefixUri : String} {schema : Document}

theorem termNames_eq : termNames prefixUri schema =
    (ascending (schema.iris.filterMap (constantOf? prefixUri))).map fun name =>
      (name, schema.iris.filter fun iri => constantOf? prefixUri iri == some name) :=
  groups_filterMap (constantOf? prefixUri) schema.iris

theorem terms_eq : terms prefixUri schema =
    (ascending (schema.iris.filterMap (constantOf? prefixUri))).filterMap fun name =>
      (schema.iris.filter fun iri => constantOf? prefixUri iri == some name).head?.map
        fun iri => (name, iri) := by
  rw [terms, termNames_eq, List.filterMap_map]
  rfl

theorem generate_eq_ok_iff {binding : Binding} {text : String} :
    generate binding schema = .ok text ↔ IsPeaceful binding.prefixUri schema ∧
      text = header binding ++
        String.join ((terms binding.prefixUri schema).map fun term => termText schema term.1 term.2) ++
          "\x7d\n" := by
  have texts : (termNames binding.prefixUri schema).filterMap
      (fun entry => entry.2.head?.map (termText schema entry.1)) =
        (terms binding.prefixUri schema).map fun term => termText schema term.1 term.2 := by
    rw [terms, List.map_filterMap]
    congr 1
    funext entry
    cases entry.2.head? <;> rfl
  simp only [generate, texts, IsPeaceful]
  cases listed : (termNames binding.prefixUri schema).filter isConflict with
  | nil =>
    have peaceful := List.filter_eq_nil_iff.mp listed
    simp only [List.map_nil, Diagnostics.ofList?, Outcome.ok.injEq]
    exact ⟨fun same => ⟨by simpa using peaceful, same.symm⟩, fun ⟨_, same⟩ => same.symm⟩
  | cons entry rest =>
    obtain ⟨member, contended⟩ := List.mem_filter.mp
      (show entry ∈ (termNames binding.prefixUri schema).filter isConflict by simp [listed])
    simp only [List.map_cons, Diagnostics.ofList?]
    constructor
    · rintro ⟨⟩
    · rintro ⟨peaceful, _⟩
      rw [peaceful entry member] at contended
      cases contended

theorem pairwise_terms : ((terms prefixUri schema).map Prod.fst).Pairwise
    fun left right => compare left right = .lt := by
  rw [terms_eq]
  exact (pairwise_ascending _).sublist (keys_sublist ..)

section Peaceful

variable (peaceful : IsPeaceful prefixUri schema)
include peaceful

/-- A constant without contenders has one IRI. -/
theorem filter_eq_singleton {name iri : String} (listed : iri ∈ schema.iris)
    (known : constantOf? prefixUri iri = some name) :
    schema.iris.filter (fun other => constantOf? prefixUri other == some name) = [iri] := by
  have own : iri ∈ schema.iris.filter fun other => constantOf? prefixUri other == some name := by
    simp [listed, known]
  have entry : (name, schema.iris.filter fun other => constantOf? prefixUri other == some name) ∈
      termNames prefixUri schema := by
    rw [termNames_eq]
    refine List.mem_map_of_mem (mem_ascending.mpr ?_)
    exact List.mem_filterMap.mpr ⟨iri, listed, known⟩
  have alone := peaceful _ entry
  rw [isConflict, Bool.or_eq_false_iff, decide_eq_false_iff_not] at alone
  obtain ⟨only, whole⟩ := List.length_eq_one_iff.mp (Nat.le_antisymm (Nat.le_of_not_lt alone.1)
    (List.length_pos_of_mem own))
  dsimp only at whole
  rw [whole] at own ⊢
  rw [List.mem_singleton.mp own]

theorem mem_terms {name iri : String} : (name, iri) ∈ terms prefixUri schema ↔
    iri ∈ schema.iris ∧ constantOf? prefixUri iri = some name := by
  rw [terms_eq, List.mem_filterMap]
  constructor
  · rintro ⟨key, _, found⟩
    obtain ⟨first, head, same⟩ := Option.map_eq_some_iff.mp found
    cases same
    simpa using List.mem_filter.mp (List.mem_of_head? head)
  · rintro ⟨listed, known⟩
    refine ⟨name, mem_ascending.mpr (List.mem_filterMap.mpr ⟨iri, listed, known⟩), ?_⟩
    rw [filter_eq_singleton peaceful listed known]
    rfl

theorem not_mem_reservedNames {term : String × String} (member : term ∈ terms prefixUri schema) :
    term.1 ∉ reservedNames := by
  obtain ⟨entry, listed, found⟩ := List.mem_filterMap.mp member
  obtain ⟨first, _, rfl⟩ := Option.map_eq_some_iff.mp found
  have alone := peaceful entry listed
  rw [isConflict, Bool.or_eq_false_iff] at alone
  simpa using alone.2

end Peaceful

end TermBind.Artifact
