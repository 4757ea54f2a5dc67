import TermBind.Outcome
import TermBind.Source.File
import TermBind.Source.Module
import TermBind.Source.Scope
import TermBind.Wording

/-! The declarations of a source file that carry attributes. -/
namespace TermBind.Source

/-- A declaration with what its place in the file says about it: the module, unless the file has
none, and the imports around it. -/
structure Declared where
  heading : Heading
  module : Option (List String)
  scope : Scope

namespace Declared

def own (module : Option (List String)) (scope : Scope) (heading : Heading) : List Declared :=
  if heading.attributes.isEmpty then [] else [{ heading, module, scope }]

/-- In source order, a module before its contents. Imports are those of the innermost module. -/
def ofItem (module : Option (List String)) (scope : Scope) : Item → List Declared
  | .declaration heading => own module scope heading
  | .inlineModule heading items =>
    own module scope heading ++
      ofItems (module.map (· ++ [heading.name])) (Scope.ofItems items) items
  | .imports .. => []
  | .other _ => []
where
  ofItems (module : Option (List String)) (scope : Scope) : List Item → List Declared
    | [] => []
    | item :: rest => ofItem module scope item ++ ofItems module scope rest

def annotationUse (declared : Declared) (held : Attribute) : AnnotationUse where
  name := "::".intercalate (declared.scope.resolve held.path)
  arguments := held.held.arguments

def qualifiedName? (declared : Declared) : Option QualifiedName :=
  declared.module.map fun module => ⟨"::".intercalate ("crate" :: module), declared.heading.name⟩

/-- The declaration as a scan sees it. -/
def view (file : String) (declared : Declared) : Declaration where
  annotations := declared.heading.attributes.map declared.annotationUse
  qualifiedName := declared.qualifiedName?
  writtenName := some declared.heading.name
  isType := declared.heading.kind.isType
  location := some (.ofPosition file declared.heading.place.line declared.heading.place.column)

end Declared

variable [Wording]

def fault (file text : String) (place : Position) : Diagnostic :=
  (Diagnostic.of .sourceParseError [file, Wording.ofSource text]).withLocation
    (.ofPosition file place.line place.column)

/-- The declarations of the file at a path, below the source root or not. -/
def declarations (path : Path) (text : String) (root : Path) : Outcome (List Declared) :=
  match items text with
  | .ok items =>
    .ok (Declared.ofItem.ofItems (modulePath? path root) (Scope.ofItems items) items)
  | .error place => .fail (fault path.text text place)

end TermBind.Source
