import TermBind.Proofs.Artifact.Terms
import TermBind.Proofs.Graph

/-! Constants that terms contend for: generation fails on exactly these, with a diagnostic for each. -/
namespace TermBind.Artifact

open Collection

/-- An IRI of a document below a prefix, and the constant of what follows the prefix. -/
structure IsTerm (prefixUri : String) (schema : Document) (iri name : String) : Prop where
  mentioned : ∃ triple ∈ schema.triples, triple.Mentions iri
  named : ∃ below, iri = prefixUri ++ below ∧ Constant.ofLocal? below = some name

/-- A constant that a term cannot have, because every artifact has it or another term has it too. -/
inductive IsContended (prefixUri : String) (schema : Document) (name : String) : Prop
  | reserved {iri : String} (known : IsTerm prefixUri schema iri name)
      (own : name = "PREFIX" ∨ name = "PREFIX_URI")
  | shared {iri iri' : String} (known : IsTerm prefixUri schema iri name)
      (known' : IsTerm prefixUri schema iri' name) (apart : iri ≠ iri')

variable {prefixUri : String} {schema : Document}

theorem localName?_eq_some {iri below : String} :
    localName? prefixUri iri = some below ↔ iri = prefixUri ++ below := by
  rw [localName?, ← String.toList_inj, String.toList_append]
  split
  · rename_i found
    obtain ⟨rest, whole⟩ := List.isPrefixOf_iff_prefix.mp found
    rw [← whole, List.drop_left, Option.some.injEq, List.append_cancel_left_eq, ← String.toList_inj,
      String.toList_ofList]
  · rename_i missing
    rw [List.isPrefixOf_iff_prefix] at missing
    constructor
    · rintro ⟨⟩
    · exact fun whole => absurd ⟨below.toList, whole.symm⟩ missing

theorem isTerm_iff {iri name : String} : IsTerm prefixUri schema iri name ↔
    iri ∈ schema.iris ∧ constantOf? prefixUri iri = some name := by
  simp only [Document.mem_iris, constantOf?, Option.bind_eq_some_iff, localName?_eq_some]
  exact ⟨fun known => ⟨known.mentioned, known.named⟩, fun ⟨mentioned, named⟩ => ⟨mentioned, named⟩⟩

theorem mem_termNames {entry : String × List String} : entry ∈ termNames prefixUri schema ↔
    (∃ iri, IsTerm prefixUri schema iri entry.1) ∧
      entry.2 = schema.iris.filter fun iri => constantOf? prefixUri iri == some entry.1 := by
  simp only [termNames_eq, List.mem_map, mem_ascending, List.mem_filterMap, isTerm_iff]
  constructor
  · rintro ⟨name, known, rfl⟩
    exact ⟨known, rfl⟩
  · rintro ⟨known, same⟩
    exact ⟨entry.1, known, Prod.ext rfl same.symm⟩

theorem pairwise_termNames : ((termNames prefixUri schema).map Prod.fst).Pairwise
    fun left right => compare left right = .lt := by
  rw [termNames_eq, List.map_map]
  exact (List.map_id _).symm ▸ pairwise_ascending _

/-- The IRIs gathered under a constant are the terms that have it, in ascending order. -/
theorem contenders_of_mem {entry : String × List String} (member : entry ∈ termNames prefixUri schema) :
    entry.2.Pairwise (fun left right => compare left right = .lt) ∧
      ∀ iri, iri ∈ entry.2 ↔ IsTerm prefixUri schema iri entry.1 := by
  rw [(mem_termNames.mp member).2]
  constructor
  · exact (pairwise_ascending _).filter _
  · intro iri
    rw [List.mem_filter, beq_iff_eq, isTerm_iff]

theorem one_lt_length_iff {items : List String} (different : items.Nodup) :
    1 < items.length ↔ ∃ first ∈ items, ∃ second ∈ items, first ≠ second := by
  constructor
  · intro several
    obtain ⟨first, second, rest, rfl⟩ : ∃ first second rest, items = first :: second :: rest := by
      match items, several with
      | first :: second :: rest, _ => exact ⟨first, second, rest, rfl⟩
    refine ⟨first, by simp, second, by simp, ?_⟩
    rintro rfl
    simp at different
  · rintro ⟨first, member, second, member', apart⟩
    refine Nat.lt_of_not_le fun few => ?_
    match items, few with
    | [only], _ => exact apart ((List.mem_singleton.mp member).trans (List.mem_singleton.mp member').symm)

theorem isConflict_iff {entry : String × List String} (member : entry ∈ termNames prefixUri schema) :
    isConflict entry = true ↔ IsContended prefixUri schema entry.1 := by
  obtain ⟨sorted, terms⟩ := contenders_of_mem member
  obtain ⟨iri, known⟩ := (mem_termNames.mp member).1
  rw [isConflict, Bool.or_eq_true, decide_eq_true_eq, one_lt_length_iff (nodup_of_pairwise_lt sorted)]
  have own : reservedNames.contains entry.1 = true ↔ entry.1 = "PREFIX" ∨ entry.1 = "PREFIX_URI" := by
    simp [reservedNames]
  rw [own]
  constructor
  · rintro (⟨first, member, second, member', apart⟩ | reserved)
    · exact .shared ((terms first).mp member) ((terms second).mp member') apart
    · exact .reserved known reserved
  · rintro (⟨_, reserved⟩ | ⟨known, known', apart⟩)
    · exact Or.inr reserved
    · exact Or.inl ⟨_, (terms _).mpr known, _, (terms _).mpr known', apart⟩

/-- The constants contended for, ascending, each with the terms that have it. -/
def contended (prefixUri : String) (schema : Document) : List (String × List String) :=
  (termNames prefixUri schema).filter isConflict

theorem mem_names_contended {name : String} :
    name ∈ (contended prefixUri schema).map Prod.fst ↔ IsContended prefixUri schema name := by
  simp only [contended, List.mem_map, List.mem_filter]
  constructor
  · rintro ⟨entry, ⟨member, contends⟩, rfl⟩
    exact (isConflict_iff member).mp contends
  · intro contends
    have known : ∃ iri, IsTerm prefixUri schema iri name := by
      cases contends with
      | reserved known => exact ⟨_, known⟩
      | shared known => exact ⟨_, known⟩
    let contenders := schema.iris.filter fun iri => constantOf? prefixUri iri == some name
    have member : (name, contenders) ∈ termNames prefixUri schema := mem_termNames.mpr ⟨known, rfl⟩
    exact ⟨_, ⟨member, (isConflict_iff member).mpr contends⟩, rfl⟩

theorem isPeaceful_iff : IsPeaceful prefixUri schema ↔ ∀ name, ¬ IsContended prefixUri schema name := by
  constructor
  · intro peaceful name contends
    obtain ⟨entry, member, rfl⟩ := List.mem_map.mp (mem_names_contended.mpr contends)
    obtain ⟨listed, conflicts⟩ := List.mem_filter.mp member
    rw [peaceful entry listed] at conflicts
    cases conflicts
  · intro free entry member
    exact Bool.eq_false_iff.mpr fun conflicts => free _ ((isConflict_iff member).mp conflicts)

theorem not_isContended_iff : (∀ name, ¬ IsContended prefixUri schema name) ↔
    (∀ iri iri' name, IsTerm prefixUri schema iri name → IsTerm prefixUri schema iri' name →
      iri = iri') ∧
    ∀ iri name, IsTerm prefixUri schema iri name → name ≠ "PREFIX" ∧ name ≠ "PREFIX_URI" := by
  constructor
  · intro free
    constructor
    · intro iri iri' name known known'
      exact Decidable.byContradiction fun apart => free name (.shared known known' apart)
    · intro iri name known
      exact not_or.mp fun own => free name (.reserved known own)
  · rintro ⟨injective, unreserved⟩ name (⟨known, own⟩ | ⟨known, known', apart⟩)
    · exact not_or.mpr (unreserved _ name known) own
    · exact apart (injective _ _ name known known')

theorem diagnostics_generate (binding : Binding) (schema : Document) :
    (generate binding schema).diagnostics =
      (contended binding.prefixUri schema).map conflict := by
  rw [generate, contended]
  cases listed : ((termNames binding.prefixUri schema).filter isConflict).map conflict with
  | nil => rfl
  | cons first others => rfl

/-- Generation succeeds just if no two terms have one constant and none has a constant of every
artifact. Otherwise it fails with one diagnostic for each constant contended for, by ascending name,
which lists the terms that have it. -/
theorem generate_diagnoses_contention (binding : Binding) (schema : Document) :
    ((∃ text, generate binding schema = .ok text) ↔
      (∀ iri iri' name, IsTerm binding.prefixUri schema iri name →
        IsTerm binding.prefixUri schema iri' name → iri = iri') ∧
      ∀ iri name, IsTerm binding.prefixUri schema iri name →
        name ≠ "PREFIX" ∧ name ≠ "PREFIX_URI") ∧
    ∃ contended : List (String × List String),
      (generate binding schema).diagnostics = contended.map (fun entry =>
        Diagnostic.of .conflictingTermName [entry.1, ", ".intercalate entry.2]) ∧
      (contended.map Prod.fst).Pairwise (fun left right => compare left right = .lt) ∧
      (∀ name, name ∈ contended.map Prod.fst ↔ IsContended binding.prefixUri schema name) ∧
      ∀ entry ∈ contended, entry.2.Pairwise (fun left right => compare left right = .lt) ∧
        ∀ iri, iri ∈ entry.2 ↔ IsTerm binding.prefixUri schema iri entry.1 := by
  constructor
  · rw [← not_isContended_iff, ← isPeaceful_iff]
    constructor
    · rintro ⟨text, made⟩
      exact (generate_eq_ok_iff.mp made).1
    · exact fun peaceful => ⟨_, generate_eq_ok_iff.mpr ⟨peaceful, rfl⟩⟩
  · refine ⟨contended binding.prefixUri schema, diagnostics_generate binding schema, ?_,
      fun name => mem_names_contended, ?_⟩
    · exact pairwise_termNames.sublist (List.filter_sublist.map Prod.fst)
    · exact fun entry member => contenders_of_mem (List.mem_filter.mp member).1

end TermBind.Artifact
