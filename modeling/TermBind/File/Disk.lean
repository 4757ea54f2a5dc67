import TermBind.File.Tree

/-! A disk: a tree and the directory that relative paths start from. -/
namespace TermBind.File

structure Disk where
  tree : Tree
  current : Place := []
deriving Inhabited

/-- The kinds of the entries below a directory; those of a directory ascend by name. -/
inductive Listing where
  | file
  | directory (entries : List (String × Listing))
deriving Repr, Inhabited

def Tree.listing : Tree → Listing
  | .file _ => .file
  | .directory entries => .directory (listings entries)
where
  listings : List (String × Tree) → List (String × Listing)
    | [] => []
    | (name, entry) :: rest => (name, entry.listing) :: listings rest

namespace Disk

/-- Longer names cannot be used. -/
def nameLimit : Nat := 255

def isUsable (name : String) : Bool := name.utf8ByteSize ≤ nameLimit

/-- Why a path cannot be used: there is no directory on the way, or something else is wrong. -/
inductive Obstacle where
  | missing
  | other
deriving DecidableEq, Repr

/-- Where components lead from a place. All but the last must lead to directories. -/
def follow (tree : Tree) (place : Place) : List Component → Except Obstacle Place
  | [] => .ok place
  | component :: rest =>
    match tree.at? place with
    | none => .error .missing
    | some (.file _) => .error .other
    | some (.directory _) =>
      match component with
      | .root => follow tree [] rest
      | .current => follow tree place rest
      | .parent => follow tree place.dropLast rest
      | .normal name =>
        if isUsable name then follow tree (place ++ [name]) rest else .error .other

/-- The place that a path leads to, whether or not something is there. -/
def locate (disk : Disk) (path : Path) : Except Obstacle Place :=
  if path.text.isEmpty then .error .missing
  else if path.text.toList.contains '\x00' then .error .other
  else follow disk.tree disk.current path.components

def locate? (disk : Disk) (path : Path) : Option Place := (disk.locate path).toOption

/-- A path that ends in a slash or a dot can only be that of a directory. -/
def namesDirectory (path : Path) : Bool :=
  match path.segments.getLast? with
  | some last => last == "" || last == "."
  | none => false

def node? (disk : Disk) (path : Path) : Option Tree := do
  let node ← disk.tree.at? (← disk.locate? path)
  if namesDirectory path && !node.isDirectory then none else node

def isDirectory (disk : Disk) (path : Path) : Bool := (disk.node? path).any Tree.isDirectory

def read? (disk : Disk) (path : Path) : Option ByteArray := do
  match ← disk.node? path with
  | .file content => content
  | .directory _ => none

/-- Write a file in a directory that exists; a directory cannot be written over. A write is done
whole or leaves every file as it was: the disk has room, and holds neither links nor devices. -/
def write? (disk : Disk) (path : Path) (content : ByteArray) : Option Disk := do
  let place ← disk.locate? path
  if namesDirectory path || (disk.tree.at? place).any Tree.isDirectory then none
  return { disk with tree := ← disk.tree.put? (.file content) place }

/-- The last of the segments that are not empty is a dot. -/
def endsInDot (path : Path) : Bool :=
  (path.segments.filter fun segment => segment ≠ "").getLast? == some "."

/-- Make one directory, where there is nothing yet. A path that ends in a dot makes nothing. -/
def makeDirectory (disk : Disk) (path : Path) : Except Obstacle Disk := do
  let place ← disk.locate path
  match disk.tree.at? place with
  | some _ => .error .other
  | none =>
    if endsInDot path then .error .missing
    match disk.tree.put? (.directory []) place with
    | some tree => return { disk with tree }
    | none => .error .missing

/-- Make a directory, where it is missing after the one that it is in; says whether it is there. -/
def makeWithin (path : Path) : Nat → Disk → Disk × Bool
  | 0, disk => (disk, false)
  | depth + 1, disk =>
    if path.text.isEmpty then (disk, true)
    else
      match disk.makeDirectory path, path.parent? with
      | .ok made, _ => (made, true)
      | .error .missing, some parent =>
        let (made, isPresent) := makeWithin parent depth disk
        if !isPresent then (made, false)
        else
          match made.makeDirectory path with
          | .ok finished => (finished, true)
          | .error _ => (made, made.isDirectory path)
      | .error _, _ => (disk, disk.isDirectory path)

/-- Make a directory with those above it. The empty path needs none. -/
def createDirectories (disk : Disk) (path : Path) : Disk × Bool :=
  makeWithin path (path.components.length + 1) disk

def workingDirectory (disk : Disk) : Path := ⟨"/" ++ "/".intercalate disk.current⟩

end Disk
end TermBind.File
