import TermBind.Source.Grammar.Path

/-! The names that the imports of one module bring in. -/
namespace TermBind.Source

/-- Local names with the paths they stand for, the latest first, and the paths of which everything is
imported. -/
structure Scope where
  names : List (String × List String) := []
  globs : List (List String) := []
deriving DecidableEq, Repr

namespace Scope

def bind (scope : Scope) (name : String) (path : List String) : Scope :=
  { scope with names := (name, path) :: scope.names }

/-- A name below a path; `self` is the path itself under its last name. -/
def addName (scope : Scope) (path : List String) (segment : String) : Scope :=
  if segment == "self" then
    match path.getLast? with
    | some last => scope.bind last path
    | none => scope
  else scope.bind segment (path ++ [segment])

/-- A name below a path under another name; a blank one brings nothing in. -/
def addRename (scope : Scope) (path : List String) (segment newName : String) : Scope :=
  if newName == "_" then scope
  else scope.bind newName (if segment == "self" then path else path ++ [segment])

def addGlob (scope : Scope) (path : List String) : Scope :=
  { scope with globs := scope.globs ++ [path] }

/-- Everything that a tree below a path brings in. -/
def addTree (scope : Scope) (path : List String) : UseTree → Scope
  | .path segment tree => scope.addTree (path ++ [Grammar.unmarked segment]) tree
  | .name segment => scope.addName path (Grammar.unmarked segment)
  | .rename segment newName => scope.addRename path (Grammar.unmarked segment) (Grammar.unmarked newName)
  | .glob => scope.addGlob path
  | .group trees => addTrees scope path trees
where
  addTrees (scope : Scope) (path : List String) : List UseTree → Scope
    | [] => scope
    | tree :: rest => addTrees (scope.addTree path tree) path rest

def addItem (scope : Scope) : Item → Scope
  | .imports _ tree => scope.addTree [] tree
  | _ => scope

/-- The imports among the items of a module. -/
def ofItems (items : List Item) : Scope := items.foldl addItem {}

/-- The full path of a written one. Its first segment is looked up among the names; a single segment
that is not found there comes from the one path of which everything is imported. -/
def resolve (scope : Scope) : List String → List String
  | [] => []
  | first :: rest =>
    match scope.names.lookup first, rest, scope.globs with
    | some target, _, _ => target ++ rest
    | none, [], [path] => path ++ [first]
    | _, _, _ => first :: rest

end Scope
end TermBind.Source
