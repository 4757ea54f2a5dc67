import TermBind.Command
import TermBind.Instant

/-! The program. -/
namespace TermBind.Program

open File
open scoped Wording

/-- A path as the operating system takes it. The empty path leads nowhere. -/
private def located (path : Path) := do
  if path.text.isEmpty then throw (IO.userError "empty path")
  return (← IO.currentDir) / path.text

/-- Nothing where an action fails. -/
private def attempt {α : Type} (action : IO α) : IO (Option α) :=
  try return some (← action)
  catch _ => return none

/-- The entries below a directory. Links and special files are left out. -/
private partial def entriesOf (directory : String) : IO (List (String × Listing)) := do
  let start := (← IO.currentDir) / directory
  let mut found : List (String × Listing) := []
  for entry in ← start.readDir do
    match (← entry.path.symlinkMetadata).type with
    | .dir => found := (entry.fileName, .directory (← entriesOf entry.path.toString)) :: found
    | .file => found := (entry.fileName, .file) :: found
    | _ => continue
  return found.mergeSort fun left right => left.1 ≤ right.1

/-- The file system on which the program runs. -/
private def host : Host IO where
  workingDirectory := return ⟨(← IO.currentDir).toString⟩
  isPresent path := do return (← attempt (do (← located path).metadata)).isSome
  list path := do
    match ← attempt (do (← located path).isDir) with
    | some true => return some (.directory (← entriesOf path.text))
    | _ => return none
  read path := attempt do IO.FS.readBinFile (← located path)
  write path content := do
    return (← attempt (do IO.FS.writeBinFile (← located path) content)).isSome
  createDirectories path := do
    if path.text.isEmpty then return true
    return (← attempt (do IO.FS.createDirAll (← located path))).isSome

def run (arguments : List String) : IO UInt32 := do
  let ended ← Command.run host (Instant.display (← Std.Time.Timestamp.now)) arguments
  for line in ended.transcript.remarks do
    IO.eprintln line
  for line in ended.transcript.output do
    IO.println line
  return ended.status.toUInt32

end TermBind.Program

def main (arguments : List String) : IO UInt32 := TermBind.Program.run arguments
