import Mathlib.Order.Defs.Unbundled
import TermBind.Proofs.Graph
import TermBind.Proofs.Text.Bytes

/-! Documents are sets of triples in one order, which goes by subject, predicate and object. -/
namespace TermBind

open Std

/-- A strict total order, in which only equal things tie, is what comparing decides. -/
structure IsDecidedOrder {α : Type u} [Ord α] (Precedes : α → α → Prop) : Prop where
  total : IsStrictTotalOrder α Precedes
  less (left right : α) : compare left right = .lt ↔ Precedes left right
  level (left right : α) : compare left right = .eq ↔ left = right

theorem isDecidedOrder_of_compare {α : Type u} [Ord α] [TransOrd α] [LawfulEqOrd α]
    {Precedes : α → α → Prop}
    (decided : ∀ left right, compare left right = .lt ↔ Precedes left right) :
    IsDecidedOrder Precedes where
  total := {
    irrefl item before := by simpa using (decided item item).mpr before
    trans first second third before after :=
      (decided first third).mp
        (TransCmp.lt_trans ((decided first second).mpr before) ((decided second third).mpr after))
    trichotomous left right apart apart' := by
      apply LawfulEqOrd.eq_of_compare
      cases order : compare left right with
      | lt => exact absurd ((decided left right).mp order) apart
      | eq => rfl
      | gt => exact absurd ((decided right left).mp (OrientedCmp.lt_of_gt order)) apart' }
  less := decided
  level _ _ := Std.compare_eq_iff_eq

/-- The order of nodes: IRIs, then blank nodes, then literals by value, datatype and language. A
literal without a language comes before those with one. -/
inductive Node.Precedes : Node → Node → Prop
  | iris {left right} (texts : Utf8.Precedes left right) : Precedes (.iri left) (.iri right)
  | iriBlank {text label} : Precedes (.iri text) (.blank label)
  | iriLiteral {text value datatype language} :
    Precedes (.iri text) (.literal value datatype language)
  | blanks {left right} (labels : Utf8.Precedes left right) : Precedes (.blank left) (.blank right)
  | blankLiteral {label value datatype language} :
    Precedes (.blank label) (.literal value datatype language)
  | values {left right datatype datatype' language language'} (values : Utf8.Precedes left right) :
    Precedes (.literal left datatype language) (.literal right datatype' language')
  | datatypes {value left right language language'} (datatypes : Utf8.Precedes left right) :
    Precedes (.literal value left language) (.literal value right language')
  | absent {value datatype language} :
    Precedes (.literal value datatype none) (.literal value datatype (some language))
  | languages {value datatype left right} (languages : Utf8.Precedes left right) :
    Precedes (.literal value datatype (some left)) (.literal value datatype (some right))

/-- The order of triples by subject, predicate and object. -/
inductive Triple.Precedes : Triple → Triple → Prop
  | subjects {left right predicate predicate' object object'} (subjects : Node.Precedes left right) :
    Precedes ⟨left, predicate, object⟩ ⟨right, predicate', object'⟩
  | predicates {subject left right object object'} (predicates : Utf8.Precedes left right) :
    Precedes ⟨subject, left, object⟩ ⟨subject, right, object'⟩
  | objects {subject predicate left right} (objects : Node.Precedes left right) :
    Precedes ⟨subject, predicate, left⟩ ⟨subject, predicate, right⟩

theorem Node.compare_literal {value datatype value' datatype' : String}
    {language language' : Option String} :
    compare (literal value datatype language) (literal value' datatype' language') = .lt ↔
      Utf8.Precedes value value' ∨ value = value' ∧
        (Utf8.Precedes datatype datatype' ∨ datatype = datatype' ∧
          compare language language' = .lt) := by
  change ((compare value value').then
    ((compare datatype datatype').then (compare language language'))) = .lt ↔ _
  simp only [Ordering.then_eq_lt, Utf8.compare_eq_lt_iff, Std.compare_eq_iff_eq]

theorem Node.compare_eq_lt_iff {left right : Node} :
    compare left right = .lt ↔ Precedes left right := by
  constructor
  · intro less
    cases left with
    | iri text =>
      cases right with
      | iri => exact .iris (Utf8.compare_eq_lt_iff.mp less)
      | blank => exact .iriBlank
      | literal => exact .iriLiteral
    | blank label =>
      cases right with
      | iri => cases less
      | blank => exact .blanks (Utf8.compare_eq_lt_iff.mp less)
      | literal => exact .blankLiteral
    | literal value datatype language =>
      cases right with
      | iri => cases less
      | blank => cases less
      | literal value' datatype' language' =>
        rcases compare_literal.mp less with values | ⟨rfl, datatypes | ⟨rfl, languages⟩⟩
        · exact .values values
        · exact .datatypes datatypes
        · cases language <;> cases language'
          · cases languages
          · exact .absent
          · cases languages
          · exact .languages (Utf8.compare_eq_lt_iff.mp languages)
  · intro before
    cases before with
    | iris texts => exact Utf8.compare_eq_lt_iff.mpr texts
    | iriBlank | iriLiteral | blankLiteral => rfl
    | blanks labels => exact Utf8.compare_eq_lt_iff.mpr labels
    | values values => exact compare_literal.mpr (.inl values)
    | datatypes datatypes => exact compare_literal.mpr (.inr ⟨rfl, .inl datatypes⟩)
    | absent => exact compare_literal.mpr (.inr ⟨rfl, .inr ⟨rfl, rfl⟩⟩)
    | languages languages =>
      exact compare_literal.mpr (.inr ⟨rfl, .inr ⟨rfl, Utf8.compare_eq_lt_iff.mpr languages⟩⟩)

theorem Triple.compare_mk {subject subject' : Node} {predicate predicate' : String}
    {object object' : Node} :
    compare (mk subject predicate object) ⟨subject', predicate', object'⟩ = .lt ↔
      Node.Precedes subject subject' ∨ subject = subject' ∧
        (Utf8.Precedes predicate predicate' ∨ predicate = predicate' ∧
          Node.Precedes object object') := by
  change ((compare subject subject').then
    ((compare predicate predicate').then (compare object object'))) = .lt ↔ _
  simp only [Ordering.then_eq_lt, Node.compare_eq_lt_iff, Utf8.compare_eq_lt_iff, Std.compare_eq_iff_eq]

theorem Triple.compare_eq_lt_iff {left right : Triple} :
    compare left right = .lt ↔ Precedes left right := by
  refine compare_mk.trans ⟨?_, ?_⟩
  · obtain ⟨subject, predicate, object⟩ := left
    obtain ⟨subject', predicate', object'⟩ := right
    rintro (subjects | ⟨same, predicates | ⟨same', objects⟩⟩)
    · exact .subjects subjects
    · cases same
      exact .predicates predicates
    · cases same
      cases same'
      exact .objects objects
  · rintro (subjects | predicates | objects)
    · exact .inl subjects
    · exact .inr ⟨rfl, .inl predicates⟩
    · exact .inr ⟨rfl, .inr ⟨rfl, objects⟩⟩

namespace Document

/-- A document is what a list of triples gives under a key: each triple of the list once and in order,
and from these each IRI that they mention, once and in order. -/
structure IsSetOf (key : String) (given : List Triple) (document : Document) : Prop where
  named : document.key = key
  ascending : document.triples.Pairwise Triple.Precedes
  mem_triples (triple : Triple) : triple ∈ document.triples ↔ triple ∈ given
  irisAscending : document.iris.Pairwise Utf8.Precedes
  mem_iris (iri : String) : iri ∈ document.iris ↔ ∃ triple ∈ given, triple.Mentions iri

theorem isSetOf_ofTriples (key : String) (given : List Triple) :
    (ofTriples key given).IsSetOf key given where
  named := rfl
  ascending := (isAscending_ofTriples key given).imp Triple.compare_eq_lt_iff.mp
  mem_triples _ := Collection.mem_ascending
  irisAscending := (Collection.pairwise_ascending _).imp Utf8.compare_eq_lt_iff.mp
  mem_iris iri := by
    rw [Document.mem_iris]
    simp only [ofTriples, Collection.mem_ascending]

theorem ofTriples_eq_iff {key : String} {left right : List Triple} :
    ofTriples key left = ofTriples key right ↔ ∀ triple, triple ∈ left ↔ triple ∈ right := by
  constructor
  · intro same triple
    rw [← (isSetOf_ofTriples key left).mem_triples, same]
    exact (isSetOf_ofTriples key right).mem_triples triple
  · intro same
    rw [ofTriples, ofTriples, Collection.ascending_congr same]

/-- Lists give equal documents just where they have the same triples, in whatever order and however
often. A document has its triples and its IRIs in order; the order is total, and what ties in it is
equal. -/
theorem isCanonical_ofTriples (key : String) (left right : List Triple) :
    (ofTriples key left = ofTriples key right ↔ ∀ triple, triple ∈ left ↔ triple ∈ right) ∧
      (ofTriples key left).IsSetOf key left ∧ IsDecidedOrder Triple.Precedes ∧
      IsDecidedOrder Node.Precedes ∧ IsDecidedOrder Utf8.Precedes :=
  ⟨ofTriples_eq_iff, isSetOf_ofTriples key left,
    isDecidedOrder_of_compare fun _ _ => Triple.compare_eq_lt_iff,
    isDecidedOrder_of_compare fun _ _ => Node.compare_eq_lt_iff,
    isDecidedOrder_of_compare fun _ _ => Utf8.compare_eq_lt_iff⟩

end Document
end TermBind
