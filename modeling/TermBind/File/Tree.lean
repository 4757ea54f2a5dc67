import TermBind.Path

/-! Trees of files and directories, and where paths lead in them. -/
namespace TermBind.File

/-- Entries of a directory ascend by name. -/
inductive Tree where
  | file (content : ByteArray)
  | directory (entries : List (String × Tree))
deriving Inhabited

/-- A place is given by the names from the top of a tree down. -/
abbrev Place := List String

namespace Tree

def entries : Tree → List (String × Tree)
  | .file _ => []
  | .directory entries => entries

def isDirectory : Tree → Bool
  | .file _ => false
  | .directory _ => true

/-- What is at a place. -/
def at? (tree : Tree) : Place → Option Tree
  | [] => some tree
  | name :: rest => do (← tree.entries.lookup name).at? rest

/-- Put an entry in its place among others, or in the place of the one that has its name. -/
def insertEntry (name : String) (tree : Tree) : List (String × Tree) → List (String × Tree)
  | [] => [(name, tree)]
  | entry :: rest =>
    match compare name entry.1 with
    | .lt => (name, tree) :: entry :: rest
    | .eq => (name, tree) :: rest
    | .gt => entry :: insertEntry name tree rest

/-- Put something at a place, the directory of which must exist. -/
def put? (tree content : Tree) : Place → Option Tree
  | [] => some content
  | name :: rest =>
    match tree with
    | .file _ => none
    | .directory entries => do
      match entries.lookup name, rest with
      | some entry, rest => return .directory (insertEntry name (← entry.put? content rest) entries)
      | none, [] => return .directory (insertEntry name content entries)
      | none, _ => none

end Tree
end TermBind.File
