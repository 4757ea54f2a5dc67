import TermBind.Binding
import TermBind.Collection.Ascending

/-! Schema documents: ordered sets of triples. -/
namespace TermBind

inductive Node where
  | iri (text : String)
  | blank (label : String)
  | literal (value datatype : String) (language : Option String)
deriving DecidableEq, Repr, Inhabited

namespace Node

def iri? : Node → Option String
  | .iri text => some text
  | _ => none

def literal? : Node → Option String
  | .literal value _ _ => some value
  | _ => none

def rank : Node → Nat
  | .iri _ => 0
  | .blank _ => 1
  | .literal .. => 2

/-- IRIs come first, then blank nodes, then literals by value, datatype and language. -/
instance : Ord Node where
  compare
    | .iri left, .iri right => compare left right
    | .blank left, .blank right => compare left right
    | .literal value datatype language, .literal value' datatype' language' =>
      (compare value value').then ((compare datatype datatype').then (compare language language'))
    | left, right => compare left.rank right.rank

end Node

structure Triple where
  subject : Node
  predicate : String
  object : Node
deriving DecidableEq, Repr, Inhabited

namespace Triple

instance : Ord Triple where
  compare left right :=
    (compare left.subject right.subject).then
      ((compare left.predicate right.predicate).then (compare left.object right.object))

def iris (triple : Triple) : List String :=
  triple.subject.iri?.toList ++ [triple.predicate] ++ triple.object.iri?.toList

end Triple

/-- Triples under the name of the file they come from, each once and in ascending order. -/
structure Document where
  key : String
  triples : List Triple
deriving DecidableEq, Repr, Inhabited

namespace Document

def ofTriples (key : String) (triples : List Triple) : Document :=
  { key, triples := Collection.ascending triples }

/-- Every IRI of the document, ascending. -/
def iris (document : Document) : List String :=
  Collection.ascending (document.triples.flatMap Triple.iris)

/-- The literal objects of a subject and predicate. -/
def literals (document : Document) (subject predicate : String) : List String :=
  (document.triples.filter fun triple =>
    triple.subject.iri? == some subject && triple.predicate == predicate).filterMap
      fun triple => triple.object.literal?

end Document

/-- A request together with the document it names. -/
structure JoinedUnit where
  binding : Binding
  schema : Document
deriving DecidableEq, Repr, Inhabited

end TermBind
