import Mathlib.Data.Finset.Card
import Mathlib.Data.Set.Function
import TermBind.Proofs.Graph
import TermBind.Schema

/-! Labels of blank nodes. The label of a blank node says how many others appeared before it. No two share a
label, and the identities that a reader gave them leave no trace in a document. -/
namespace TermBind

namespace Turtle

/-- A term under other identities of blank nodes. -/
def Term.renamed (rename : BlankId → BlankId) : Term → Term
  | .iri text => .iri text
  | .blank id => .blank (rename id)
  | .literal value datatype language => .literal value datatype language

def Statement.renamed (rename : BlankId → BlankId) (statement : Statement) : Statement :=
  ⟨statement.subject.renamed rename, statement.predicate, statement.object.renamed rename⟩

end Turtle

namespace Schema

open Turtle

/-- The blank node that a term is. -/
def blanks : Term → List BlankId
  | .blank id => [id]
  | _ => []

/-- The blank nodes of statements as they appear, the subject of each statement before its object. -/
def appearances (statements : List Statement) : List BlankId :=
  statements.flatMap fun statement => blanks statement.subject ++ blanks statement.object

/-- How many blank nodes appear before the first appearance of one. -/
def rankIn (seen : List BlankId) (id : BlankId) : Nat := (seen.take (seen.idxOf id)).toFinset.card

/-- A table holds the blank nodes that were seen, under the labels from zero on by first appearance. -/
structure IsTable (labels : Labels) (seen : List BlankId) : Prop where
  holds id : id ∈ labels ↔ id ∈ seen
  bijection : Set.BijOn labels.label {id | id ∈ seen}
    {label | ∃ number < seen.toFinset.card, label = s!"b{number}"}
  ranked : ∀ id ∈ seen, labels.label id = s!"b{rankIn seen id}"

theorem rankIn_append_cons {before after : List BlankId} {id : BlankId} (fresh : id ∉ before) :
    rankIn (before ++ id :: after) id = before.toFinset.card := by
  have first : (before ++ id :: after).idxOf id = before.length := by
    rw [List.idxOf_append, if_neg fresh, List.idxOf_cons_self, Nat.zero_add]
  rw [rankIn, first, List.take_left]

namespace Labels

/-- The table after blank nodes have appeared. -/
def ofAppearances (seen : List BlankId) : Labels := seen.foldl (fun labels id => labels.insert id) []

theorem mem_insert {labels : Labels} {id other : BlankId} :
    other ∈ labels.insert id ↔ other ∈ labels ∨ other = id := by
  rw [insert]
  split
  · rename_i known
    rw [List.contains_iff_mem] at known
    exact ⟨Or.inl, fun member => member.elim (fun held => held) fun same => same ▸ known⟩
  · rw [List.mem_append, List.mem_singleton]

theorem nodup_insert {labels : Labels} (distinct : labels.Nodup) (id : BlankId) :
    (labels.insert id).Nodup := by
  rw [insert]
  split
  · exact distinct
  · rename_i unknown
    rw [List.contains_iff_mem] at unknown
    exact List.nodup_append.mpr ⟨distinct, List.nodup_singleton id, by grind⟩

theorem prefix_insert (labels : Labels) (id : BlankId) : labels <+: labels.insert id := by
  rw [insert]
  split
  · exact List.prefix_refl labels
  · exact List.prefix_append labels [id]

theorem ofAppearances_concat (seen : List BlankId) (id : BlankId) :
    ofAppearances (seen ++ [id]) = (ofAppearances seen).insert id := by
  rw [ofAppearances, List.foldl_append]
  rfl

theorem mem_ofAppearances {seen : List BlankId} {id : BlankId} : id ∈ ofAppearances seen ↔ id ∈ seen := by
  induction seen using List.reverseRecOn with
  | nil => rfl
  | append_singleton seen last ih =>
    rw [ofAppearances_concat, mem_insert, ih, List.mem_append, List.mem_singleton]

theorem nodup_ofAppearances (seen : List BlankId) : (ofAppearances seen).Nodup := by
  induction seen using List.reverseRecOn with
  | nil => exact List.nodup_nil
  | append_singleton seen last ih =>
    rw [ofAppearances_concat]
    exact nodup_insert ih last

theorem length_ofAppearances (seen : List BlankId) : (ofAppearances seen).length = seen.toFinset.card := by
  rw [← List.toFinset_card_of_nodup (nodup_ofAppearances seen)]
  congr 1
  ext id
  rw [List.mem_toFinset, List.mem_toFinset, mem_ofAppearances]

/-- What is in the table stays where it is. -/
theorem prefix_ofAppearances (seen later : List BlankId) :
    ofAppearances seen <+: ofAppearances (seen ++ later) := by
  induction later using List.reverseRecOn with
  | nil => rw [List.append_nil]
  | append_singleton later last ih =>
    rw [← List.append_assoc, ofAppearances_concat]
    exact ih.trans (prefix_insert _ last)

theorem idxOf_ofAppearances_append {seen : List BlankId} {id : BlankId} (known : id ∈ seen)
    (later : List BlankId) :
    (ofAppearances (seen ++ later)).idxOf id = (ofAppearances seen).idxOf id := by
  obtain ⟨rest, whole⟩ := prefix_ofAppearances seen later
  rw [← whole, List.idxOf_append, if_pos (mem_ofAppearances.mpr known)]

/-- The place of a blank node is the number of those that appeared before it. -/
theorem idxOf_ofAppearances {seen : List BlankId} {id : BlankId} (known : id ∈ seen) :
    (ofAppearances seen).idxOf id = rankIn seen id := by
  obtain ⟨before, after, rfl, fresh⟩ := List.eq_append_cons_of_mem known
  have unknown : id ∉ ofAppearances before := mt mem_ofAppearances.mp fresh
  have own : (ofAppearances (before ++ [id])).idxOf id = (ofAppearances before).length := by
    rw [ofAppearances_concat, insert, if_neg (by simpa using unknown), List.idxOf_append,
      if_neg unknown, List.idxOf_cons_self, Nat.zero_add]
  rw [rankIn_append_cons fresh, ← length_ofAppearances, ← own, List.append_cons]
  exact idxOf_ofAppearances_append (List.mem_append_right before (List.mem_singleton_self id)) after

theorem ofStatements_eq (statements : List Statement) :
    ofStatements statements = ofAppearances (appearances statements) := by
  have noted : ∀ (labels : Labels) (term : Term),
      labels.noteTerm term = (blanks term).foldl (fun labels id => labels.insert id) labels := by
    intro labels term
    cases term <;> rfl
  rw [ofStatements, ofAppearances, appearances, List.foldl_flatMap]
  congr 1
  funext labels statement
  rw [note, noted, noted, List.foldl_append]

end Labels

theorem natural_injective {left right : Nat} (same : s!"b{left}" = s!"b{right}") : left = right := by
  have digits : Nat.toDigits 10 left = Nat.toDigits 10 right := by
    simpa [← String.toList_inj, toString, Nat.repr] using same
  rw [← Nat.ofDigitChars_toDigits (b := 10) (n := left) (by decide) (by decide), digits]
  exact Nat.ofDigitChars_toDigits (by decide) (by decide)

theorem label_eq_iff {labels : Labels} {left right : BlankId} (known : left ∈ labels) :
    labels.label left = labels.label right ↔ left = right :=
  ⟨fun same => (List.idxOf_inj known).mp (natural_injective same), fun same => same ▸ rfl⟩

theorem isTable_ofAppearances (seen : List BlankId) : IsTable (Labels.ofAppearances seen) seen := by
  refine ⟨fun id => Labels.mem_ofAppearances, ⟨?_, ?_, ?_⟩, ?_⟩
  · intro id known
    refine ⟨(Labels.ofAppearances seen).idxOf id, ?_, rfl⟩
    rw [← Labels.length_ofAppearances]
    exact List.idxOf_lt_length_of_mem (Labels.mem_ofAppearances.mpr known)
  · intro left known right _ same
    exact (label_eq_iff (Labels.mem_ofAppearances.mpr known)).mp same
  · rintro label ⟨number, small, rfl⟩
    rw [← Labels.length_ofAppearances] at small
    have member := List.getElem_mem small
    refine ⟨(Labels.ofAppearances seen)[number], Labels.mem_ofAppearances.mp member, ?_⟩
    rw [Labels.label, (Labels.nodup_ofAppearances seen).idxOf_getElem]
  · intro id known
    rw [Labels.label, Labels.idxOf_ofAppearances known]

/-- The terms that stand as subject or object of a statement. -/
def IsTermOf (statements : List Statement) (term : Term) : Prop :=
  ∃ statement ∈ statements, term = statement.subject ∨ term = statement.object

theorem mem_appearances {statements : List Statement} {id : BlankId} :
    id ∈ appearances statements ↔ IsTermOf statements (.blank id) := by
  have own : ∀ term, id ∈ blanks term ↔ .blank id = term := by
    intro term
    cases term <;> simp [blanks]
  simp only [appearances, List.mem_flatMap, List.mem_append, own, IsTermOf]

theorem node_eq_iff {labels : Labels} {left right : Term}
    (known : ∀ id, left = .blank id → id ∈ labels) : node labels left = node labels right ↔ left = right := by
  constructor
  · intro same
    cases left <;> cases right <;> simp only [node, reduceCtorEq, Node.iri.injEq, Node.blank.injEq,
      Node.literal.injEq] at same
    · rw [same]
    · rw [(label_eq_iff (known _ rfl)).mp same]
    · rw [same.1, same.2.1, same.2.2]
  · rintro rfl
    rfl

/-- A triple depends on the labels of its own blank nodes, whatever these are called. -/
theorem triple_renamed {labels labels' : Labels} {rename : BlankId → BlankId} {statement : Statement}
    (same : ∀ id ∈ blanks statement.subject ++ blanks statement.object,
      labels'.label (rename id) = labels.label id) :
    triple labels' (statement.renamed rename) = triple labels statement := by
  have node_renamed : ∀ term, (∀ id ∈ blanks term, labels'.label (rename id) = labels.label id) →
      node labels' (term.renamed rename) = node labels term := by
    intro term own
    cases term with
    | blank id => exact congrArg Node.blank (own id (List.mem_singleton_self id))
    | iri | literal => rfl
  rw [triple, triple, Statement.renamed]
  simp only [node_renamed statement.subject fun id member => same id (List.mem_append_left _ member),
    node_renamed statement.object fun id member => same id (List.mem_append_right _ member)]

theorem renamed_id (statement : Statement) : statement.renamed id = statement := by
  have own : ∀ term : Term, term.renamed id = term := by
    intro term
    cases term <;> rfl
  rw [Statement.renamed, own, own]

theorem blanks_subset {statements : List Statement} {statement : Statement}
    (member : statement ∈ statements) :
    blanks statement.subject ++ blanks statement.object ⊆ appearances statements :=
  fun _ own => List.mem_flatMap.mpr ⟨statement, member, own⟩

/-- The table after some of the statements gives their blank nodes the labels that they keep. -/
theorem label_of_read {read rest : List Statement} {id : BlankId} (known : id ∈ appearances read) :
    (Labels.ofStatements (read ++ rest)).label id = (Labels.ofStatements read).label id := by
  rw [Labels.ofStatements_eq, Labels.ofStatements_eq, appearances, List.flatMap_append, Labels.label,
    Labels.label]
  exact congrArg (fun place => s!"b{place}") (Labels.idxOf_ofAppearances_append known _)

section Renamed

variable {rename : BlankId → BlankId}

theorem appearances_renamed (statements : List Statement) :
    appearances (statements.map (·.renamed rename)) = (appearances statements).map rename := by
  have own : ∀ term, blanks (term.renamed rename) = (blanks term).map rename := by
    intro term
    cases term <;> rfl
  rw [appearances, appearances, List.flatMap_map, List.map_flatMap]
  congr 1
  funext statement
  rw [List.map_append, Statement.renamed, own, own]

theorem rankIn_map {seen : List BlankId} (injective : Set.InjOn rename {id | id ∈ seen}) {id : BlankId}
    (known : id ∈ seen) : rankIn (seen.map rename) (rename id) = rankIn seen id := by
  obtain ⟨before, after, rfl, fresh⟩ := List.eq_append_cons_of_mem known
  have fresh' : rename id ∉ before.map rename := by
    rintro member
    obtain ⟨other, earlier, same⟩ := List.mem_map.mp member
    exact fresh (injective (List.mem_append_left _ earlier) known same ▸ earlier)
  have within : Set.InjOn rename ↑before.toFinset := by
    refine injective.mono fun other earlier => ?_
    exact List.mem_append_left _ (List.mem_toFinset.mp earlier)
  have mapped : (before.map rename).toFinset = before.toFinset.image rename := by
    ext other
    simp
  rw [List.map_append, List.map_cons, rankIn_append_cons fresh', rankIn_append_cons fresh, mapped,
    Finset.card_image_of_injOn within]

theorem label_renamed {statements : List Statement}
    (injective : Set.InjOn rename {id | id ∈ appearances statements}) {id : BlankId}
    (known : id ∈ appearances statements) :
    (Labels.ofStatements (statements.map (·.renamed rename))).label (rename id) =
      (Labels.ofStatements statements).label id := by
  have known' : rename id ∈ (appearances statements).map rename := List.mem_map_of_mem known
  rw [Labels.ofStatements_eq, Labels.ofStatements_eq, appearances_renamed,
    (isTable_ofAppearances _).ranked _ known', (isTable_ofAppearances _).ranked _ known,
    rankIn_map injective known]

/-- Labels do not show what blank nodes were called. -/
theorem triples_renamed {statements : List Statement}
    (injective : Set.InjOn rename {id | id ∈ appearances statements}) :
    triples (statements.map (·.renamed rename)) = triples statements := by
  rw [triples, triples, List.map_map]
  refine List.map_congr_left fun statement member => triple_renamed fun id own => ?_
  exact label_renamed injective (blanks_subset member own)

end Renamed

/-- What becomes of statements when their blank nodes are labelled. The table is a bijection at every time, a
label is final once it is given, no nodes or statements are merged, and other identities of the blank nodes
give the same document. -/
structure IsRelabelled [Wording] (statements : List Statement) : Prop where
  loads : ∀ text key, statements? text = some statements →
    load text key = .ok (Document.ofTriples key (triples statements))
  isTable : ∀ read, read <+: statements → IsTable (Labels.ofStatements read) (appearances read)
  isFinal : ∀ read statement rest, read ++ statement :: rest = statements →
    triple (Labels.ofStatements (read ++ [statement])) statement =
      triple (Labels.ofStatements statements) statement
  separate : ∀ left ∈ appearances statements, ∀ right ∈ appearances statements,
    (Labels.ofStatements statements).label left = (Labels.ofStatements statements).label right ↔
      left = right
  nodes : Set.InjOn (node (Labels.ofStatements statements)) {term | IsTermOf statements term}
  graph : ∀ key, Set.BijOn (triple (Labels.ofStatements statements)) {statement | statement ∈ statements}
    {triple | triple ∈ (Document.ofTriples key (triples statements)).triples}
  renamed : ∀ rename : BlankId → BlankId, Set.InjOn rename {id | id ∈ appearances statements} →
    ∀ key, Document.ofTriples key (triples (statements.map (·.renamed rename))) =
      Document.ofTriples key (triples statements)

theorem injOn_node (statements : List Statement) :
    Set.InjOn (node (Labels.ofStatements statements)) {term | IsTermOf statements term} := by
  intro left known right _ same
  refine (node_eq_iff ?_).mp same
  rintro id rfl
  rw [Labels.ofStatements_eq, Labels.mem_ofAppearances]
  exact mem_appearances.mpr known

theorem bijOn_triple (statements : List Statement) (key : String) :
    Set.BijOn (triple (Labels.ofStatements statements)) {statement | statement ∈ statements}
      {triple | triple ∈ (Document.ofTriples key (triples statements)).triples} := by
  have listed : ∀ found, found ∈ (Document.ofTriples key (triples statements)).triples ↔
      ∃ statement ∈ statements, triple (Labels.ofStatements statements) statement = found := by
    intro found
    rw [Document.ofTriples, Collection.mem_ascending, triples, List.mem_map]
  refine ⟨fun statement member => (listed _).mpr ⟨statement, member, rfl⟩, ?_, fun found member => ?_⟩
  · intro left known right known' same
    have distinct := injOn_node statements
    rw [triple, triple, Triple.mk.injEq] at same
    have subject := distinct ⟨left, known, .inl rfl⟩ ⟨right, known', .inl rfl⟩ same.1
    have object := distinct ⟨left, known, .inr rfl⟩ ⟨right, known', .inr rfl⟩ same.2.2
    obtain ⟨_, _, _⟩ := left
    obtain ⟨_, _, _⟩ := right
    exact Statement.mk.injEq .. ▸ ⟨subject, same.2.1, object⟩
  · exact (listed found).mp member

/-- The labels of blank nodes are canonical and lose nothing. -/
theorem isRelabelled [Wording] (statements : List Statement) : IsRelabelled statements where
  loads text key read := by rw [load, read]
  isTable read _ := by
    rw [Labels.ofStatements_eq]
    exact isTable_ofAppearances _
  isFinal read statement rest whole := by
    have last : statement ∈ read ++ [statement] := List.mem_append_right _ (List.mem_singleton_self _)
    have own : triple (Labels.ofStatements (read ++ [statement] ++ rest)) (statement.renamed id) =
        triple (Labels.ofStatements (read ++ [statement])) statement :=
      triple_renamed fun _ member => label_of_read (blanks_subset last member)
    rw [renamed_id, ← List.append_cons, whole] at own
    exact own.symm
  separate left known right _ := by
    refine label_eq_iff ?_
    rwa [Labels.ofStatements_eq, Labels.mem_ofAppearances]
  nodes := injOn_node statements
  graph := bijOn_triple statements
  renamed rename injective key := by rw [triples_renamed injective]

example : triples [⟨.blank (.written "x"), "p", .blank (.anonymous 0)⟩,
      ⟨.blank (.anonymous 0), "q", .blank (.written "x")⟩] =
    [⟨.blank "b0", "p", .blank "b1"⟩, ⟨.blank "b1", "q", .blank "b0"⟩] := by decide

end Schema
end TermBind
