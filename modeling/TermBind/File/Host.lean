import TermBind.File.Disk

/-! What a program asks of the file system it runs on. -/
namespace TermBind.File

/-- Operations on files. Reading gives nothing where it fails; writing and making directories say
whether they were done. Nothing is listed for a path that is no directory. -/
structure Host (m : Type → Type) where
  workingDirectory : m Path
  isPresent : Path → m Bool
  list : Path → m (Option Listing)
  read : Path → m (Option ByteArray)
  write : Path → ByteArray → m Bool
  createDirectories : Path → m Bool

namespace Host

variable {m : Type → Type} [Monad m] (host : Host m)

/-- The text of a file, if it is one. -/
def readText (path : Path) : m (Option String) := do
  return (← host.read path).bind String.fromUTF8?

def writeText (path : Path) (text : String) : m Bool := host.write path text.toUTF8

end Host

/-- The operations on a disk. -/
def Disk.host : Host (StateM Disk) where
  workingDirectory := return (← get).workingDirectory
  isPresent path := return ((← get).node? path).isSome
  list path := return ((← get).node? path).bind fun node =>
    if node.isDirectory then some node.listing else none
  read path := return (← get).read? path
  write path content := do
    match (← get).write? path content with
    | some disk =>
      set disk
      return true
    | none => return false
  createDirectories path := do
    let (disk, created) := (← get).createDirectories path
    set disk
    return created

end TermBind.File
