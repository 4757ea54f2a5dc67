import TermBind.Path
import TermBind.Source.Grammar.Basic
import TermBind.Source.Lexer

/-! The module that a source file holds, by its place below the source root. -/
namespace TermBind.Source

def isIdentifier (text : String) : Bool :=
  match trees text.toList with
  | .ok [tree] => Grammar.atName [tree]
  | _ => false

/-- The segments of a file's module: its directories and its stem, which is left out for the file of
a directory and for the files at the root of a crate. -/
def moduleSegments? (relative : Path) : Option (List String) := do
  let directories ← match relative.parent? with
    | some parent => parent.components.mapM Component.name?
    | none => some []
  let stem ← relative.fileStem?
  if stem == "mod" || (directories.isEmpty && (stem == "lib" || stem == "main")) then
    return directories
  else return directories ++ [stem]

/-- A file outside the root has no module, nor has one whose place is not made of identifiers. -/
def modulePath? (path root : Path) : Option (List String) := do
  let segments ← moduleSegments? (← path.stripPrefix? root)
  if segments.all isIdentifier then return segments else none

end TermBind.Source
