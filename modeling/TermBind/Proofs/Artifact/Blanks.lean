import TermBind.Proofs.Artifact.Contention
import TermBind.Proofs.Graph

/-! Blank nodes leave no trace in an artifact. What it shows of a document is the IRIs that stand in it and
the texts of their comments and labels. -/
namespace TermBind

def Node.relabelled (rename : String → String) : Node → Node
  | .blank label => .blank (rename label)
  | node => node

def Triple.relabelled (rename : String → String) (triple : Triple) : Triple :=
  { triple with subject := triple.subject.relabelled rename, object := triple.object.relabelled rename }

namespace Document

open Std

/-- A document with other labels for its blank nodes; triples that become equal are one. -/
def relabelled (rename : String → String) (document : Document) : Document :=
  .ofTriples document.key (document.triples.map (Triple.relabelled rename))

/-- An IRI has a literal of a text under a predicate. -/
def States (document : Document) (subject predicate text : String) : Prop :=
  ∃ datatype language, ⟨.iri subject, predicate, .literal text datatype language⟩ ∈ document.triples

variable {document : Document} {subject predicate text : String}

theorem mem_literals : text ∈ document.literals subject predicate ↔
    document.States subject predicate text := by
  simp only [literals, List.mem_filterMap, List.mem_filter, Bool.and_eq_true, beq_iff_eq,
    Node.iri?_eq_some]
  constructor
  · rintro ⟨⟨_, _, object⟩, ⟨member, rfl, rfl⟩, shown⟩
    cases object with
    | literal value datatype language =>
      cases shown
      exact ⟨datatype, language, member⟩
    | _ => cases shown
  · rintro ⟨datatype, language, member⟩
    exact ⟨_, ⟨member, rfl, rfl⟩, rfl⟩

theorem pairwise_literals (sorted : document.IsAscending) (subject predicate : String) :
    (document.literals subject predicate).Pairwise fun left right => (compare left right).isLE := by
  rw [literals, List.pairwise_filterMap]
  refine (sorted.filter _).imp_of_mem ?_
  rintro ⟨_, _, object⟩ ⟨_, property, object'⟩ member member' before text shown text' shown'
  simp only [List.mem_filter, Bool.and_eq_true, beq_iff_eq, Node.iri?_eq_some] at member member'
  obtain ⟨_, rfl, rfl⟩ := member
  obtain ⟨_, rfl, rfl⟩ := member'
  cases object with
  | literal value datatype language =>
    cases object' with
    | literal value' datatype' language' =>
      cases shown
      cases shown'
      -- Subject and predicate are the same, so the order is that of the literals, and first that of
      -- their texts.
      change (compare (Node.iri subject) (.iri subject)).then ((compare property property).then
        ((compare text text').then _)) = .lt at before
      rw [ReflOrd.compare_self, ReflOrd.compare_self] at before
      change (compare text text').then _ = .lt at before
      rcases Ordering.then_eq_lt.mp before with lower | ⟨level, _⟩
      · rw [lower]
        rfl
      · rw [level]
        rfl
    | _ => cases shown'
  | _ => cases shown

/-- The same IRIs stand in both documents, and they have the same comments and the same labels. What type or
language these are of does not matter. -/
structure IsAlike (left right : Document) : Prop where
  iris : ∀ iri, (∃ triple ∈ left.triples, triple.Mentions iri) ↔
    ∃ triple ∈ right.triples, triple.Mentions iri
  comments : ∀ subject text, left.States subject Artifact.commentIri text ↔
    right.States subject Artifact.commentIri text
  labels : ∀ subject text, left.States subject Artifact.labelIri text ↔
    right.States subject Artifact.labelIri text

end Document

section Relabelled

variable {rename : String → String}

theorem Node.relabelled_eq_iri {node : Node} {iri : String} :
    node.relabelled rename = .iri iri ↔ node = .iri iri := by
  cases node <;> simp [relabelled]

theorem Triple.mentions_relabelled {triple : Triple} {iri : String} :
    (triple.relabelled rename).Mentions iri ↔ triple.Mentions iri := by
  constructor
  · rintro (same | same | same)
    · exact .subject (Node.relabelled_eq_iri.mp same)
    · exact .predicate same
    · exact .object (Node.relabelled_eq_iri.mp same)
  · rintro (same | same | same)
    · exact .subject (Node.relabelled_eq_iri.mpr same)
    · exact .predicate same
    · exact .object (Node.relabelled_eq_iri.mpr same)

theorem Document.mem_relabelled {document : Document} {triple : Triple} :
    triple ∈ (document.relabelled rename).triples ↔
      ∃ own ∈ document.triples, own.relabelled rename = triple := by
  rw [relabelled, ofTriples, Collection.mem_ascending, List.mem_map]

theorem Document.states_relabelled {document : Document} {subject predicate text : String} :
    (document.relabelled rename).States subject predicate text ↔
      document.States subject predicate text := by
  refine exists_congr fun datatype => exists_congr fun language => ?_
  rw [mem_relabelled]
  constructor
  · rintro ⟨⟨own, _, object⟩, member, same⟩
    obtain ⟨subjects, rfl, objects⟩ := Triple.mk.inj same
    cases own <;> cases subjects
    cases object <;> cases objects
    exact member
  · exact fun member => ⟨_, member, rfl⟩

theorem Document.isAlike_relabelled (document : Document) (rename : String → String) :
    (document.relabelled rename).IsAlike document where
  iris iri := by
    constructor
    · rintro ⟨_, member, mentions⟩
      obtain ⟨own, known, rfl⟩ := mem_relabelled.mp member
      exact ⟨own, known, Triple.mentions_relabelled.mp mentions⟩
    · rintro ⟨own, known, mentions⟩
      exact ⟨_, mem_relabelled.mpr ⟨own, known, rfl⟩, Triple.mentions_relabelled.mpr mentions⟩
  comments _ _ := states_relabelled
  labels _ _ := states_relabelled

end Relabelled

/-- Triples that say something of blank nodes matter only by the IRIs in them. -/
theorem Document.isAlike_of_said {left right : Document}
    (said : ∀ triple : Triple, (∀ label, triple.subject ≠ .blank label) →
      (triple ∈ left.triples ↔ triple ∈ right.triples))
    (iris : ∀ iri, (∃ triple ∈ left.triples, triple.Mentions iri) ↔
      ∃ triple ∈ right.triples, triple.Mentions iri) : left.IsAlike right := by
  have states : ∀ subject predicate text,
      left.States subject predicate text ↔ right.States subject predicate text :=
    fun subject predicate text => exists_congr fun datatype => exists_congr fun language =>
      said _ (by simp)
  exact ⟨iris, fun _ => states _ _, fun _ => states _ _⟩

namespace Artifact

variable {left right : Document}

theorem documentation?_congr (sorted : left.IsAscending) (sorted' : right.IsAscending)
    (alike : left.IsAlike right) (iri : String) : documentation? left iri = documentation? right iri := by
  have first : ∀ predicate, (∀ text, left.States iri predicate text ↔ right.States iri predicate text) →
      ((left.literals iri predicate).map oneLine).find? (fun text => !text.isEmpty) =
        ((right.literals iri predicate).map oneLine).find? fun text => !text.isEmpty := by
    intro predicate same
    rw [List.find?_map, List.find?_map]
    congr 1
    apply Collection.find?_congr (Document.pairwise_literals sorted ..) (Document.pairwise_literals sorted' ..)
    intro text
    rw [Document.mem_literals, Document.mem_literals, same]
  rw [documentation?, documentation?, List.map_append, List.map_append, List.find?_append,
    List.find?_append, first commentIri (alike.comments iri), first labelIri (alike.labels iri)]

theorem generate_congr (binding : Binding) (sorted : left.IsAscending) (sorted' : right.IsAscending)
    (alike : left.IsAlike right) : generate binding left = generate binding right := by
  have iris : left.iris = right.iris := by
    apply Collection.eq_of_pairwise_lt (Collection.pairwise_ascending _) (Collection.pairwise_ascending _)
    intro iri
    exact Document.mem_iris.trans ((alike.iris iri).trans Document.mem_iris.symm)
  have texts : termText left = termText right := by
    funext name iri
    rw [termText, termText, documentation?_congr sorted sorted' alike]
  rw [generate, generate, termNames, termNames, iris, texts]

/-- Generation does not look at blank nodes. It comes to the same for documents in which the same IRIs stand
with the same comments and labels; so for a document with other labels for its blank nodes, be they
different or not, and for one with other triples about blank nodes in which the same IRIs stand. -/
theorem generate_ignores_blanks (binding : Binding) :
    (∀ left right : Document, left.IsAscending → right.IsAscending → left.IsAlike right →
      generate binding left = generate binding right) ∧
    (∀ (document : Document) (rename : String → String), document.IsAscending →
      generate binding (document.relabelled rename) = generate binding document) ∧
    ∀ left right : Document, left.IsAscending → right.IsAscending →
      (∀ triple : Triple, (∀ label, triple.subject ≠ .blank label) →
        (triple ∈ left.triples ↔ triple ∈ right.triples)) →
      (∀ iri, (∃ triple ∈ left.triples, triple.Mentions iri) ↔
        ∃ triple ∈ right.triples, triple.Mentions iri) →
      generate binding left = generate binding right := by
  refine ⟨fun left right => generate_congr binding, fun document rename sorted => ?_,
    fun left right sorted sorted' said iris => ?_⟩
  · exact generate_congr binding (Document.isAscending_ofTriples _ _) sorted
      (document.isAlike_relabelled rename)
  · exact generate_congr binding sorted sorted' (Document.isAlike_of_said said iris)

def friendBinding : Binding where
  documentKey := "friend.ttl"
  scope := "crate"
  typeName := "Friend"
  prefixLabel := "f"
  prefixUri := "http://f.example/"

/-- A property, its comment of some type and language, and more triples. -/
def friendSchema (datatype : String) (language : Option String) (others : List Triple) : Document :=
  .ofTriples "friend.ttl"
    (⟨.iri "http://f.example/knows", commentIri, .literal "Is a friend of." datatype language⟩ :: others)

/-- Two blank nodes that know each other. -/
def mutualSchema : Document := friendSchema "" none
  [⟨.blank "b0", "http://f.example/knows", .blank "b1"⟩,
    ⟨.blank "b1", "http://f.example/knows", .blank "b0"⟩]

/-- A blank node that knows itself, and the comment in a language. -/
def selfSchema : Document := friendSchema "string" (some "en")
  [⟨.blank "b0", "http://f.example/knows", .blank "b0"⟩]

theorem mem_friendSchema {datatype : String} {language : Option String} {others : List Triple}
    {triple : Triple} : triple ∈ (friendSchema datatype language others).triples ↔
      triple = ⟨.iri "http://f.example/knows", commentIri, .literal "Is a friend of." datatype language⟩ ∨
        triple ∈ others := by
  rw [friendSchema, Document.ofTriples, Collection.mem_ascending, List.mem_cons]

theorem generate_ignores_blanks_friends :
    let merged := mutualSchema.relabelled fun _ => "b"
    let apart := friendSchema "" none [⟨.blank "b2", "http://f.example/knows", .blank "b3"⟩]
    (mutualSchema.IsAlike selfSchema ∧
      generate friendBinding mutualSchema = generate friendBinding selfSchema) ∧
    (mutualSchema.IsAscending ∧ mutualSchema.triples.length = 3 ∧ merged.triples.length = 2 ∧
      generate friendBinding merged = generate friendBinding mutualSchema) ∧
    (∀ triple : Triple, (∀ label, triple.subject ≠ .blank label) →
      (triple ∈ mutualSchema.triples ↔ triple ∈ apart.triples)) ∧
    (∀ iri, (∃ triple ∈ mutualSchema.triples, triple.Mentions iri) ↔
      ∃ triple ∈ apart.triples, triple.Mentions iri) ∧
    generate friendBinding mutualSchema = generate friendBinding apart := by
  intro merged apart
  obtain ⟨whenAlike, whenRelabelled, whenSaid⟩ := generate_ignores_blanks friendBinding
  have sorted : mutualSchema.IsAscending := Document.isAscending_ofTriples _ _
  have sorted' : selfSchema.IsAscending := Document.isAscending_ofTriples _ _
  have sorted'' : apart.IsAscending := Document.isAscending_ofTriples _ _
  have mentioned : ∀ other : Document, mutualSchema.iris = other.iris →
      ∀ iri, (∃ triple ∈ mutualSchema.triples, triple.Mentions iri) ↔
        ∃ triple ∈ other.triples, triple.Mentions iri := by
    intro other same iri
    rw [← Document.mem_iris, ← Document.mem_iris, same]
  have alike : mutualSchema.IsAlike selfSchema := by
    refine ⟨mentioned _ (by decide +kernel), fun subject text => ?_, fun subject text => ?_⟩
    · simp [Document.States, mutualSchema, selfSchema, mem_friendSchema]
    · simp [Document.States, mutualSchema, selfSchema, mem_friendSchema, commentIri, labelIri]
  have said : ∀ triple : Triple, (∀ label, triple.subject ≠ .blank label) →
      (triple ∈ mutualSchema.triples ↔ triple ∈ apart.triples) := by
    rintro ⟨subject, predicate, object⟩ named
    cases subject <;> simp_all [mutualSchema, apart, mem_friendSchema]
  have iris := mentioned apart (by decide +kernel)
  exact ⟨⟨alike, whenAlike _ _ sorted sorted' alike⟩,
    ⟨sorted, by decide +kernel, by decide +kernel, whenRelabelled _ _ sorted⟩,
    said, iris, whenSaid _ _ sorted sorted'' said iris⟩

end Artifact
end TermBind
