import TermBind.Binding

/-! Declarations as a scan sees them, whatever language they were written in. -/
namespace TermBind

/-- One positional argument of an annotation: a constant by its value, anything else as written. -/
inductive Argument where
  | literal (value : String)
  | expression (text : String)
deriving DecidableEq, Repr

namespace Argument

def literal? : Argument → Option String
  | .literal value => some value
  | .expression _ => none

def expression? : Argument → Option String
  | .literal _ => none
  | .expression text => some text

end Argument

/-- An annotation under its full name. -/
structure AnnotationUse where
  name : String
  arguments : List Argument
deriving DecidableEq, Repr

/-- What is asked about a declaration. -/
structure Declaration where
  annotations : List AnnotationUse
  qualifiedName : Option QualifiedName := none
  writtenName : Option String := none
  isType : Bool := true
  location : Option Location := none
deriving DecidableEq, Repr

namespace Declaration

/-- The arguments of the first annotation of a name. -/
def argumentsOf? (declaration : Declaration) (name : String) : Option (List Argument) :=
  (declaration.annotations.find? fun use => use.name == name).map (·.arguments)

/-- The name to show in messages. -/
def shownName (declaration : Declaration) : String := declaration.writtenName.getD "<unnamed>"

end Declaration
end TermBind
