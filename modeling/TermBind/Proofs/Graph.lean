import TermBind.Graph
import TermBind.Proofs.Collection.Ascending

/-! Triples that compare as equal are equal, so documents are sets of triples in one order. -/
namespace TermBind

open Std

namespace Node

/-- The text that a node shows. -/
def shown : Node → String
  | .iri text => text
  | .blank label => label
  | .literal value _ _ => value

def datatype? : Node → Option String
  | .literal _ datatype _ => some datatype
  | _ => none

def language? : Node → Option String
  | .literal _ _ language => language
  | _ => none

theorem compare_eq (left right : Node) :
    compare left right = compareLex (compareOn rank) (compareLex (compareOn shown)
      (compareLex (compareOn datatype?) (compareOn language?))) left right := by
  cases left with
  | literal => cases right <;> rfl
  | _ =>
    cases right
    all_goals first | rfl | exact Ordering.then_eq.symm

instance : TransOrd Node := by
  have same : (compare : Node → Node → Ordering) = compareLex (compareOn rank)
      (compareLex (compareOn shown) (compareLex (compareOn datatype?) (compareOn language?))) :=
    funext fun left => funext fun right => compare_eq left right
  unfold TransOrd
  rw [same]
  infer_instance

instance : LawfulEqOrd Node where
  eq_of_compare {left right} level := by
    rw [compare_eq] at level
    obtain ⟨ranks, level⟩ := Ordering.then_eq_eq.mp level
    obtain ⟨texts, level⟩ := Ordering.then_eq_eq.mp level
    obtain ⟨datatypes, languages⟩ := Ordering.then_eq_eq.mp level
    have ranks : left.rank = right.rank := LawfulEqOrd.eq_of_compare ranks
    have texts : left.shown = right.shown := LawfulEqOrd.eq_of_compare texts
    have datatypes : left.datatype? = right.datatype? := LawfulEqOrd.eq_of_compare datatypes
    have languages : left.language? = right.language? := LawfulEqOrd.eq_of_compare languages
    cases left <;> cases right <;> cases ranks <;> cases texts <;> cases datatypes <;>
      cases languages <;> rfl

theorem iri?_eq_some {node : Node} {iri : String} : node.iri? = some iri ↔ node = .iri iri := by
  cases node <;> simp [iri?]

end Node

namespace Triple

instance : TransOrd Triple :=
  inferInstanceAs (TransCmp (compareLex (compareOn Triple.subject)
    (compareLex (compareOn Triple.predicate) (compareOn Triple.object))))

instance : LawfulEqOrd Triple where
  eq_of_compare {left right} level := by
    obtain ⟨subjects, level⟩ := Ordering.then_eq_eq.mp level
    obtain ⟨predicates, objects⟩ := Ordering.then_eq_eq.mp level
    have subjects : left.subject = right.subject := LawfulEqOrd.eq_of_compare subjects
    have predicates : left.predicate = right.predicate := LawfulEqOrd.eq_of_compare predicates
    have objects : left.object = right.object := LawfulEqOrd.eq_of_compare objects
    cases left
    cases right
    cases subjects
    cases predicates
    cases objects
    rfl

/-- An IRI stands in a triple. -/
inductive Mentions (triple : Triple) (iri : String) : Prop
  | subject (same : triple.subject = .iri iri)
  | predicate (same : triple.predicate = iri)
  | object (same : triple.object = .iri iri)

theorem mem_iris {triple : Triple} {iri : String} : iri ∈ triple.iris ↔ triple.Mentions iri := by
  simp only [iris, List.mem_append, Option.mem_toList, List.mem_singleton, Node.iri?_eq_some]
  constructor
  · rintro ((same | rfl) | same)
    · exact .subject same
    · exact .predicate rfl
    · exact .object same
  · rintro (same | same | same)
    · exact Or.inl (Or.inl same)
    · exact Or.inl (Or.inr same.symm)
    · exact Or.inr same

end Triple

namespace Document

/-- The triples of a document stand in ascending order, each once. -/
def IsAscending (document : Document) : Prop :=
  document.triples.Pairwise fun left right => compare left right = .lt

theorem isAscending_ofTriples (key : String) (triples : List Triple) :
    (ofTriples key triples).IsAscending :=
  Collection.pairwise_ascending triples

/-- A document in order is made of its own triples. -/
theorem ofTriples_self {document : Document} (sorted : document.IsAscending) :
    ofTriples document.key document.triples = document := by
  rw [ofTriples, Collection.ascending_eq_self sorted]

theorem mem_iris {schema : Document} {iri : String} :
    iri ∈ schema.iris ↔ ∃ triple ∈ schema.triples, triple.Mentions iri := by
  simp only [iris, Collection.mem_ascending, List.mem_flatMap, Triple.mem_iris]

end Document
end TermBind
