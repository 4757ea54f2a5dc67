import TermBind.Diagnostic.Basic
import TermBind.Url

/-! Requests to generate a declaration's constants from a schema document. -/
namespace TermBind

/-- The full name of a declaration: its module and its own name. -/
structure QualifiedName where
  scope : String
  name : String
deriving DecidableEq, Repr, Inhabited

def QualifiedName.display (name : QualifiedName) : String := s!"{name.scope}::{name.name}"

/-- The fields of a request, compared by value. -/
structure Binding where
  documentKey : String
  scope : String
  typeName : String
  prefixLabel : String
  prefixUri : String
deriving DecidableEq, Repr, Inhabited

inductive BindingProblem where
  | emptyDocumentKey
  | emptyScope
  | emptyTypeName
  | invalidPrefixUri (uri : String) (problem : Url.Problem)
deriving DecidableEq, Repr

def BindingProblem.message : BindingProblem → String
  | .emptyDocumentKey => "document key is empty"
  | .emptyScope => "namespace is empty"
  | .emptyTypeName => "type name is empty"
  | .invalidPrefixUri uri problem =>
    "prefix URI `" ++ uri ++ "` is not an absolute URI (" ++ problem.reason ++ ")"

namespace Binding

/-- The first rule that a request breaks. -/
def problem? (binding : Binding) : Option BindingProblem :=
  if binding.documentKey.isEmpty then some .emptyDocumentKey
  else if binding.scope.isEmpty then some .emptyScope
  else if binding.typeName.isEmpty then some .emptyTypeName
  else (Url.problem? binding.prefixUri).map (.invalidPrefixUri binding.prefixUri)

/-- Check a request; its fields are kept as they were written. -/
def validated (binding : Binding) : Except BindingProblem Binding :=
  match binding.problem? with
  | none => .ok binding
  | some problem => .error problem

def qualifiedName (binding : Binding) : QualifiedName := ⟨binding.scope, binding.typeName⟩

/-- Field by field, in the order of the structure. -/
def key (binding : Binding) : List String :=
  [binding.documentKey, binding.scope, binding.typeName, binding.prefixLabel, binding.prefixUri]

instance : Ord Binding := ⟨fun left right => compare left.key right.key⟩

theorem validated_eq_ok {binding result : Binding} (accepted : binding.validated = .ok result) :
    result = binding ∧ binding.problem? = none := by
  unfold validated at accepted
  split at accepted <;> simp_all

end Binding

/-- A request and where it was declared; only the request identifies it. -/
structure ScannedBinding where
  binding : Binding
  location : Option Location := none
deriving DecidableEq, Repr, Inhabited

end TermBind
