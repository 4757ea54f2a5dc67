import TermBind.Declaration
import TermBind.Source.Token

/-! The parts of a source file that declarations are read from. -/
namespace TermBind.Source

/-- What an attribute holds after its path. -/
inductive Held where
  | nothing
  | value (argument : Argument)
  | list (trees : List Tree)
deriving Repr

/-- The segments of a path come without the marks of raw identifiers. -/
def IsSpelled (path : List String) : Prop := path ≠ [] ∧ ∀ segment ∈ path, IsPlain segment.toList

/-- An attribute, by its path and what it holds. -/
structure Attribute where
  path : List String
  isAbsolute : Bool := false
  held : Held := .nothing
  isSpelled : IsSpelled path
deriving Repr

/-- The tree of one import declaration. -/
inductive UseTree where
  | path (segment : String) (tree : UseTree)
  | name (segment : String)
  | rename (segment newName : String)
  | glob
  | group (trees : List UseTree)
deriving Repr

inductive ItemKind where
  | struct
  | enumeration
  | union
  | function
  | constant
  | static
  | typeAlias
  | trait
  | module
  | implementation
deriving DecidableEq, Repr

def ItemKind.isType : ItemKind → Bool
  | .struct | .enumeration | .union => true
  | _ => false

/-- What every declaration has; an implementation is called by the text of its type. -/
structure Heading where
  kind : ItemKind
  name : String
  place : Position
  attributes : List Attribute
  isWord : kind ≠ .implementation → IsWord name
deriving Repr

inductive Item where
  | declaration (heading : Heading)
  | inlineModule (heading : Heading) (items : List Item)
  | imports (attributes : List Attribute) (tree : UseTree)
  | other (attributes : List Attribute)
deriving Repr

namespace Item

/-- Attributes written before an item come before those written inside it. -/
def withOuter (outer : List Attribute) : Item → Item
  | .declaration heading => .declaration { heading with attributes := outer ++ heading.attributes }
  | .inlineModule heading items =>
    .inlineModule { heading with attributes := outer ++ heading.attributes } items
  | .imports attributes tree => .imports (outer ++ attributes) tree
  | .other attributes => .other (outer ++ attributes)

def attributes : Item → List Attribute
  | .declaration heading => heading.attributes
  | .inlineModule heading _ => heading.attributes
  | .imports attributes _ => attributes
  | .other attributes => attributes

end Item
end TermBind.Source
